import FileServer.Connection.Handler
import FileServer.Proofs.Transfer.Delivery
import FileServer.Socket.Duplex
import Mathlib.Logic.Relation

/-!
# Runs of a connection

A connection does something only when one of its two handlers is called. A *run* is a
sequence of such calls, in any order, from the moment at which the connection was
accepted up to the first call that wants it closed.

Between two calls the world goes on without the connection: its peer sends and reads,
other connections use the engine and take notes, files change. How far it may go is
said by a `World`, so that a statement about runs can be made for a world in which all
of this happens, or for one in which some of it does not.

* `World.Call`: the world goes on, and then a handler is called;
* `World.Later`: what comes after some number of calls, with what was wanted last;
* `World.Reached`: what comes after the connection was accepted.

A short run is given at the end: what comes in is no request, and a page of two bytes is
announced (`Visit`).
-/

namespace FileServer

variable {S : Type}

/-- What a connection is told. -/
inductive Signal
  /-- Its socket can be read, or the connection broke off. -/
  | readable (hangup : Bool)
  /-- Its socket can be written. -/
  | writable
  deriving DecidableEq, Repr

namespace Session

/-- Calls the handler that a signal is for. -/
def handle [Socket S] (site : Site) (signal : Signal) (s : Session S) : Next × Session S :=
  match signal with
  | .readable hangup => s.onReadable site hangup
  | .writable => s.onWritable site

/-- What is wanted when a handler ends in some way: a failure wants to be closed. -/
def wish : Except ConnectionFailure Next → Next
  | .ok next => next
  | .error _ => .close

variable (handled : Handled S)

/-- The end of a handler is only noted. -/
theorem exists_finish_eq : ∃ notes,
    finish handled = (wish handled.1, { handled.2 with notes := handled.2.notes ++ notes }) := by
  rcases handled with ⟨_ | next, s⟩
  · simp only [finish]
    split <;> simp_all [wish, note]
  · exact ⟨[], by simp [finish, wish]⟩

@[simp] theorem finish_fst : (finish handled).1 = wish handled.1 := by
  obtain ⟨_, h⟩ := exists_finish_eq handled
  rw [h]

@[simp] theorem finish_connection : (finish handled).2.connection = handled.2.connection := by
  obtain ⟨_, h⟩ := exists_finish_eq handled
  rw [h]

@[simp] theorem finish_socket : (finish handled).2.socket = handled.2.socket := by
  obtain ⟨_, h⟩ := exists_finish_eq handled
  rw [h]

@[simp] theorem finish_engine : (finish handled).2.engine = handled.2.engine := by
  obtain ⟨_, h⟩ := exists_finish_eq handled
  rw [h]

end Session

/-- What can go on around a connection. -/
structure World (S : Type) where
  /-- The sockets that a connection can begin with. -/
  begins : S → Prop
  /-- What can become of a socket between two calls. -/
  drifts : S → S → Prop
  /-- The engines that a handler can find. -/
  engines : Engine → Prop
  /-- The settings and the file tree that a handler can find. -/
  sites : Site → Prop

namespace World

/-- Anything can happen. -/
def anything (S : Type) : World S where
  begins _ := True
  drifts _ _ := True
  engines _ := True
  sites _ := True

variable (world : World S)

/-- What can become of a session between two calls: the connection itself is only
    changed by its handlers. -/
structure Elapses (s s' : Session S) : Prop where
  connection : s'.connection = s.connection
  socket : world.drifts s.socket s'.socket
  engine : world.engines s'.engine

variable [Socket S]

/-- The world goes on, and then a handler is called, unless the last one wanted the
    connection closed. -/
inductive Call : Next × Session S → Next × Session S → Prop
  | call {next : Next} {s s' : Session S} {site : Site} (signal : Signal) :
    next ≠ .close → world.Elapses s s' → world.sites site →
      Call (next, s) (s'.handle site signal)

/-- What comes after some number of calls. -/
abbrev Later : Next × Session S → Next × Session S → Prop := Relation.ReflTransGen world.Call

/-- What comes after the connection was accepted. At first it waits to be read. -/
def Reached (m : Next × Session S) : Prop :=
  ∃ token peer socket engine notes, world.begins socket ∧
    world.Later (.read, ⟨{ token := token, peer := peer }, socket, engine, notes⟩) m

variable {world}

/-- A connection that was just accepted is reached. -/
theorem Reached.new {token : UInt64} {peer : String} {socket : S} {engine : Engine}
    {notes : List Note} (h : world.begins socket) :
    world.Reached (.read, ⟨{ token := token, peer := peer }, socket, engine, notes⟩) :=
  ⟨token, peer, socket, engine, notes, h, .refl⟩

theorem Reached.later {m m' : Next × Session S} (h : world.Reached m) (hm : world.Later m m') :
    world.Reached m' := by
  obtain ⟨token, peer, socket, engine, notes, hb, hl⟩ := h
  exact ⟨token, peer, socket, engine, notes, hb, hl.trans hm⟩

/-- What a call leaves is reached from where it is made. -/
theorem Reached.call {next : Next} {s s' : Session S} {site : Site} (h : world.Reached (next, s))
    (signal : Signal) (hn : next ≠ .close) (he : world.Elapses s s') (hs : world.sites site) :
    world.Reached (s'.handle site signal) :=
  h.later (.single (.call signal hn he hs))

/-- What every call preserves holds of all that comes later. -/
theorem Later.preserves {motive : Next → Session S → Prop}
    (call : ∀ {next s s' site} (signal : Signal), next ≠ .close → world.Elapses s s' →
      world.sites site → motive next s →
        motive (s'.handle site signal).1 (s'.handle site signal).2)
    {m m' : Next × Session S} (h : world.Later m m') (hm : motive m.1 m.2) : motive m'.1 m'.2 := by
  induction h with
  | refl => exact hm
  | tail _ hcall ih =>
    cases hcall with
    | call signal hn he hs => exact call signal hn he hs ih

/-- What holds of a new connection and is preserved by every call holds of all that is
    reached. -/
theorem Reached.induction {motive : Next → Session S → Prop}
    (new : ∀ token peer socket engine notes, world.begins socket →
      motive .read ⟨{ token := token, peer := peer }, socket, engine, notes⟩)
    (call : ∀ {next s s' site} (signal : Signal), world.Reached (next, s) → next ≠ .close →
      world.Elapses s s' → world.sites site → motive next s →
        motive (s'.handle site signal).1 (s'.handle site signal).2)
    {next : Next} {s : Session S} (h : world.Reached (next, s)) : motive next s := by
  obtain ⟨token, peer, socket, engine, notes, hb, hl⟩ := h
  refine (Later.preserves (motive := fun next s => world.Reached (next, s) ∧ motive next s) ?_ hl
    ⟨.new hb, new token peer socket engine notes hb⟩).2
  intro next s s' site signal hn he hs ih
  exact ⟨ih.1.call signal hn he hs, call signal ih.1 hn he hs ih.2⟩

end World

/-! ### A short run -/

namespace Visit

/-- A site with nothing but a page. -/
def site (page : Bytes) : Site where
  settings := {}
  tree := {
    nodes := [(["work".toList], .directory), (["work".toList, "404.html".toList], .file 0)]
    contents := [(0, .ofBytes page)]
    fresh := 1
    home := ["work".toList] }

/-- A page of two bytes. -/
def page : Bytes := [104, 105]

/-- A question mark and a blank line are there to be read. -/
def accepted : Session (Recorded Duplex) :=
  ⟨{ token := 1, peer := "10.0.0.1:4000" }, ⟨{ inbound := [63, 13, 10, 13, 10] }, []⟩, {}, []⟩

/-- The request is there. -/
def received : Next × Session (Recorded Duplex) := accepted.handle (site page) (.readable false)

/-- It is none. -/
def refused : Next × Session (Recorded Duplex) := received.2.handle (site page) .writable

/-- The page is announced. -/
def announced : Next × Session (Recorded Duplex) := refused.2.handle (site page) .writable

/-- The page is on the socket. -/
def answered : Next × Session (Recorded Duplex) := announced.2.handle (site page) .writable

theorem received_eq : received = (.write, ((accepted.enter .receiving).append ⟨{}, []⟩
    [63, 13, 10, 13, 10]).enter .requestReceived) := by
  show Session.finish (Session.receive 8192 (accepted.enter .receiving)) = _
  rw [Session.receive]
  rfl

theorem refused_eq : refused.1 = .write ∧ refused.2.connection.phase = .sendingNotFound ∧
    refused.2.engine = {} ∧ refused.2.socket = ⟨{}, []⟩ := by
  rw [refused, received_eq]
  exact ⟨rfl, rfl, rfl, rfl⟩

theorem openPage_site : Session.openPage (site page) = .ok (0, 2) := by
  have hsteps : FileTree.steps (site page).settings.notFoundPath.toList =
      [Path.here, "404.html".toList] := rfl
  rw [Session.openPage, FileTree.openRegular, FileTree.find, FileTree.locate,
    if_neg (by decide +kernel), if_neg (by decide +kernel), if_neg (by decide +kernel), hsteps,
    FileTree.walk, if_pos rfl, FileTree.walk]
  rfl

theorem announced_eq : announced = (.write, (refused.2.update fun c =>
    { c with status := .notFound, file := some 0 }).startBody ⟨.notFound, 2⟩) := by
  rw [announced, Session.handle, Session.onWritable, Session.writable, refused_eq.2.1]
  simp only [Session.prepareNotFound, openPage_site]
  rfl

theorem announced_next : announced.1 ≠ .close := by
  rw [announced_eq]
  decide

theorem announced_engine : announced.2.engine = {} := by
  rw [announced_eq]
  exact refused_eq.2.2.1

/-- The header of the announcement. -/
def header : SendBuffer := ⟨(ResponseHeader.mk .notFound 2).toBytes, 0⟩

/-- The socket with all of the header. -/
def filled : Recorded Duplex := ⟨{ outbound := header.content }, header.content⟩

/-- The header goes out at once, and then it is the turn of the body. -/
theorem writable_announced (content : Bytes) : announced.2.writable (site content) =
    ({ announced.2 with socket := filled }.update fun c =>
      { c with header := header.advance header.remaining }).sendBody (site content) 0 := by
  have hphase : announced.2.connection.phase = .sendingData := by rw [announced_eq]; rfl
  have hheader : announced.2.connection.header = header := by rw [announced_eq]; rfl
  have hsocket : announced.2.socket = ⟨{}, []⟩ := by
    rw [announced_eq]
    exact refused_eq.2.2.2
  have hsend : Sink.send announced.2.socket header.rest = (.took header.remaining, filled) := by
    rw [hsocket]
    rfl
  have hflush := SendBuffer.flush_of_took hsend (by decide)
  rw [Session.writable, hphase]
  dsimp only
  rw [Session.sendData, hheader, hflush, announced_eq]
  rfl

theorem answered_phase : answered.2.connection.phase = .notFoundSent := by
  have hbody : announced.2.connection.body = ⟨0, 2⟩ := by rw [announced_eq]; rfl
  have hrun : FileBody.run page ⟨0, 2⟩ filled =
      (.ok .done, ⟨2, 0⟩, ⟨{ outbound := header.content ++ page }, header.content ++ page⟩) :=
    FileBody.run_of_took rfl (by decide)
  rw [answered, Session.handle, Session.onWritable, Session.finish_connection, writable_announced,
    Session.sendBody]
  simp only [Session.update_connection, Session.update_socket, hbody,
    show Session.contentOf (site page) 0 = page from rfl, hrun]
  rw [announced_eq]
  rfl

/-- Where a world leaves the visit alone, the announcement is reached. -/
theorem reached_announced {world : World (Recorded Duplex)} (hb : world.begins accepted.socket)
    (hd : ∀ b, world.drifts b b) (he : world.engines {}) (hs : world.sites (site page)) :
    world.Reached (announced.1, announced.2) := by
  have hn₁ : received.1 ≠ .close := by
    rw [received_eq]
    decide
  have hn₂ : refused.1 ≠ .close := by
    rw [refused_eq.1]
    decide
  have he₁ : received.2.engine = {} := by
    rw [received_eq]
    rfl
  have h₁ : world.Reached (received.1, received.2) :=
    .call (.new hb) (.readable false) (by decide) ⟨rfl, hd _, he⟩ hs
  have h₂ : world.Reached (refused.1, refused.2) :=
    h₁.call .writable hn₁ ⟨rfl, hd _, he₁ ▸ he⟩ hs
  exact h₂.call .writable hn₂ ⟨rfl, hd _, refused_eq.2.2.1 ▸ he⟩ hs

end Visit

end FileServer
