import FileServer.Proofs.Connection.Record
import FileServer.Proofs.Transfer.Spending

/-!
# Handlers and the shared engine

All connections share one engine, and their notes come into one list. Two sessions with the
same connection and the same socket, on engines in which no completion waits, go the same
way, whatever else the engines were used for (`Session.Alike`, `Session.Alike.handle`): a
handler ends in the same way, leaves the same connection and the same socket, and has
given both engines the same to do. Only the notes differ, because a note of a request tells
its tag.
-/

namespace FileServer

variable {S : Type}

namespace Session

/-- Two sessions that differ in nothing but their notes and what their engines were used for
    before. -/
structure Alike (e e' : Engine) (s s' : Session S) : Prop where
  connection : s'.connection = s.connection
  socket : s'.socket = s.socket
  engine : Engine.Alike e e' s.engine s'.engine

/-- Two calls that ended alike. -/
structure EndAlike {α : Type} (e e' : Engine) (x x' : α × Session S) : Prop where
  result : x'.1 = x.1
  session : Alike e e' x.2 x'.2

variable {e e' : Engine} {s s' : Session S}

namespace Alike

/-- What the two sessions share and what they do not. -/
theorem exists_eq (h : Alike e e' s s') : ∃ c socket f f' notes notes',
    s = ⟨c, socket, f, notes⟩ ∧ s' = ⟨c, socket, f', notes'⟩ ∧ Engine.Alike e e' f f' := by
  obtain ⟨c, socket, f, notes⟩ := s
  obtain ⟨c', socket', f', notes'⟩ := s'
  obtain ⟨rfl, rfl, he⟩ := h
  exact ⟨_, _, _, _, _, _, rfl, rfl, he⟩

theorem note (h : Alike e e' s s') (level : Level) (text : String)
    (details details' : List (String × String)) :
    Alike e e' (s.note level text details) (s'.note level text details') :=
  ⟨h.connection, h.socket, h.engine⟩

theorem update (h : Alike e e' s s') (f : Connection → Connection) :
    Alike e e' (s.update f) (s'.update f) :=
  ⟨congrArg f h.connection, h.socket, h.engine⟩

theorem enter (h : Alike e e' s s') (phase : Phase) : Alike e e' (s.enter phase) (s'.enter phase) :=
  (h.note _ _ _ _).update _

theorem at_socket (h : Alike e e' s s') (socket : S) :
    Alike e e' { s with socket := socket } { s' with socket := socket } :=
  ⟨h.connection, rfl, h.engine⟩

theorem finish {x x' : Handled S} (h : EndAlike e e' x x') :
    EndAlike e e' (Session.finish x) (Session.finish x') := by
  constructor
  · rw [finish_fst, finish_fst, h.result]
  · constructor
    · rw [finish_connection, finish_connection, h.session.connection]
    · rw [finish_socket, finish_socket, h.session.socket]
    · rw [finish_engine, finish_engine]
      exact h.session.engine

/-! ### Receiving -/

theorem append (h : Alike e e' s s') (socket : S) (bytes : Bytes) :
    Alike e e' (s.append socket bytes) (s'.append socket bytes) :=
  ((h.at_socket socket).update _).note _ _ _ _

theorem receive [Socket S] (h : Alike e e' s s') (limit : Nat) :
    EndAlike e e' (s.receive limit) (s'.receive limit) := by
  have hroom : ∀ {s s' : Session S}, Alike e e' s s' →
      ¬limit ≤ s.connection.received.length → ¬limit ≤ s'.connection.received.length := by
    intro s s' h hlimit
    rwa [h.connection]
  have hsame : ∀ {s s' : Session S} {r : Receiving} {socket : S}, Alike e e' s s' →
      Socket.receive s.socket (min (limit - s.connection.received.length) readSize) = (r, socket) →
      Socket.receive s'.socket (min (limit - s'.connection.received.length) readSize) =
        (r, socket) := by
    intro s s' r socket h hr
    rw [h.socket, h.connection, hr]
  revert s'
  fun_induction Session.receive limit s with
  | case1 s before =>
    -- The size is reached.
    rename_i hlimit
    intro s' h
    rw [Session.receive, dif_pos (show limit ≤ s'.connection.received.length by rwa [h.connection])]
    exact ⟨rfl, (h.note _ _ _ _).enter _⟩
  | case2 s before hlimit socket | case6 s before hlimit socket
  | case7 s before hlimit error socket =>
    -- The stream ends, the read would block, or it fails.
    rename_i hr
    intro s' h
    rw [receive_of_room (s := s') (hroom h hlimit), hsame h hr]
    exact ⟨rfl, h.at_socket socket⟩
  | case3 s before hlimit b bs socket hr s₁ =>
    -- Bytes come, and a blank line is there.
    rename_i hb
    intro s' h
    rw [receive_of_room (s := s') (hroom h hlimit), hsame h hr]
    have hs := h.append socket (b :: bs)
    dsimp only
    rw [hs.connection, h.connection, if_pos hb]
    exact ⟨rfl, hs.enter _⟩
  | case4 s before hlimit b bs socket hr s₁ hb =>
    -- Bytes come, but no blank line yet.
    rename_i ih
    intro s' h
    rw [receive_of_room (s := s') (hroom h hlimit), hsame h hr]
    have hs := h.append socket (b :: bs)
    dsimp only
    rw [hs.connection, h.connection, if_neg hb]
    exact ih hs
  | case5 s before hlimit socket hr =>
    -- The read is interrupted.
    rename_i ih
    intro s' h
    rw [receive_of_room (s := s') (hroom h hlimit), hsame h hr]
    exact ih (h.at_socket socket)

/-! ### Answering -/

theorem complete (h : Alike e e' s s') : Alike e e' s.complete s'.complete := by
  rw [Session.complete, Session.complete, h.connection]
  exact h.enter _

theorem sendBody [Sink S] (h : Alike e e' s s') (site : Site) (id : FileId) :
    EndAlike e e' (s.sendBody site id) (s'.sendBody site id) := by
  obtain ⟨c, socket, f, f', notes, notes', rfl, rfl, he⟩ := h.exists_eq
  rw [Session.sendBody, Session.sendBody]
  dsimp only
  split
  · exact ⟨rfl, rfl, rfl, he⟩
  · exact ⟨rfl, complete ⟨rfl, rfl, he⟩⟩
  · exact ⟨rfl, rfl, rfl, he⟩

theorem afterHeader [Sink S] (h : Alike e e' s s') (site : Site) :
    EndAlike e e' (s.afterHeader site) (s'.afterHeader site) := by
  rw [Session.afterHeader, Session.afterHeader, h.connection]
  split
  · exact ⟨rfl, h.complete⟩
  split
  · exact ⟨rfl, h.complete⟩
  split
  · exact h.sendBody site _
  · exact ⟨rfl, h.enter _⟩

theorem sendData [Sink S] (h : Alike e e' s s') (site : Site) :
    EndAlike e e' (s.sendData site) (s'.sendData site) := by
  obtain ⟨c, socket, f, f', notes, notes', rfl, rfl, he⟩ := h.exists_eq
  rw [Session.sendData, Session.sendData]
  dsimp only
  split
  · exact ⟨rfl, rfl, rfl, he⟩
  · exact ⟨rfl, rfl, rfl, he⟩
  · refine afterHeader ?_ site
    exact ⟨rfl, rfl, he⟩

theorem countChunk (h : Alike e e' s s') (n : Nat) :
    Alike e e' (s.countChunk n) (s'.countChunk n) := by
  have hrest : ∀ {t t' : Session S}, Alike e e' t t' →
      Alike e e' (if t.connection.body.remaining = 0 then t.enter .dataSent else t)
        (if t'.connection.body.remaining = 0 then t'.enter .dataSent else t') := by
    intro t t' ht
    rw [ht.connection]
    split
    · exact ht.enter _
    · exact ht
  exact hrest ((h.update _).note _ _ _ _)

theorem writeChunk [Sink S] (h : Alike e e' s s') (n : Nat) :
    EndAlike e e' (s.writeChunk n) (s'.writeChunk n) := by
  obtain ⟨c, socket, f, f', notes, notes', rfl, rfl, he⟩ := h.exists_eq
  have hwritten := he.runOne writeSocket socket (c.chunk.toBytes.take n) (c.chunk.toBytes.take n).length
  rw [Session.writeChunk, Session.writeChunk]
  dsimp only [Engine.writeFrom]
  generalize f.runOne writeSocket socket (c.chunk.toBytes.take n) (c.chunk.toBytes.take n).length = a at hwritten ⊢
  generalize f'.runOne writeSocket socket (c.chunk.toBytes.take n) (c.chunk.toBytes.take n).length = a'
    at hwritten ⊢
  obtain ⟨result, g, socket, more⟩ := a
  obtain ⟨result', g', socket', more'⟩ := a'
  obtain ⟨rfl, rfl, hg⟩ := hwritten
  have hs : Alike e e' ⟨c, socket', g, notes ++ more⟩ ⟨c, socket', g', notes' ++ more'⟩ :=
    ⟨rfl, rfl, hg⟩
  dsimp only [afterRequest]
  split
  · exact ⟨rfl, hs⟩
  split
  · exact ⟨rfl, hs.countChunk n⟩
  · exact ⟨rfl, hs⟩

theorem sendChunk [Sink S] (h : Alike e e' s s') (site : Site) :
    EndAlike e e' (s.sendChunk site) (s'.sendChunk site) := by
  obtain ⟨c, socket, f, f', notes, notes', rfl, rfl, he⟩ := h.exists_eq
  rw [Session.sendChunk, Session.sendChunk]
  dsimp only
  split
  · -- No document is open.
    exact ⟨rfl, h.complete⟩
  rename_i id hfile
  -- The reads differ in the tags of their requests only.
  have hgot := he.runOne (readFile site.tree)
    (c.chunk.widen (min site.settings.chunkSize c.body.remaining))
    ⟨id, c.body.offset, min site.settings.chunkSize c.body.remaining⟩
    (min site.settings.chunkSize c.body.remaining)
  dsimp only [Engine.readAt]
  generalize f.runOne (readFile site.tree) _ _ _ = a at hgot ⊢
  generalize f'.runOne (readFile site.tree) _ _ _ = a' at hgot ⊢
  obtain ⟨result, g, world, more⟩ := a
  obtain ⟨result', g', world', more'⟩ := a'
  obtain ⟨rfl, rfl, hg⟩ := hgot
  have hs : Alike e e' ⟨{ c with chunk := world' }, socket, g, notes ++ more⟩
      ⟨{ c with chunk := world' }, socket, g', notes' ++ more'⟩ := ⟨rfl, rfl, hg⟩
  dsimp only [afterRequest]
  split
  · exact ⟨rfl, hs⟩
  split
  · exact hs.writeChunk _
  · exact ⟨rfl, hs⟩

theorem openDocument (h : Alike e e' s s') (site : Site) (path : String) :
    EndAlike e e' (s.openDocument site path) (s'.openDocument site path) := by
  rw [Session.openDocument, Session.openDocument, h.connection]
  split
  · exact ⟨rfl, h⟩
  split
  · exact ⟨rfl, h⟩
  split
  · exact ⟨rfl, h⟩
  · exact ⟨rfl, h.note _ _ _ _⟩

theorem serve (h : Alike e e' s s') (site : Site) (head : RequestHead) :
    Alike e e' (s.serve site head) (s'.serve site head) := by
  have hopen := ((h.update fun c => { c with
      resource := site.settings.folders.classify head.path }).note .debug "request received"
    [("method", head.method), ("path", head.path),
      ("resource", (site.settings.folders.classify head.path).name)]
    [("method", head.method), ("path", head.path),
      ("resource", (site.settings.folders.classify head.path).name)]).openDocument site head.path
  rw [Session.serve, Session.serve]
  dsimp only
  rw [hopen.result]
  split
  · exact ((hopen.session.update _).update _).enter _
  · exact (hopen.session.update _).enter _

theorem processRequest (h : Alike e e' s s') (site : Site) :
    Alike e e' (s.processRequest site) (s'.processRequest site) := by
  rw [Session.processRequest, Session.processRequest, h.connection]
  split
  · exact (h.note _ _ _ _).enter _
  split
  · exact h.serve site _
  · exact (h.note _ _ _ _).enter _

theorem startBody (h : Alike e e' s s') (header : ResponseHeader) :
    Alike e e' (s.startBody header) (s'.startBody header) :=
  ((h.update _).note _ _ _ _).enter _

theorem prepareNotFound (h : Alike e e' s s') (site : Site) :
    Alike e e' (s.prepareNotFound site) (s'.prepareNotFound site) := by
  rw [Session.prepareNotFound, Session.prepareNotFound]
  split
  · exact ((h.update _).update _).startBody _
  · exact ((h.update _).note _ _ _ _).startBody _

theorem prepareHeader (h : Alike e e' s s') (site : Site) :
    EndAlike e e' (s.prepareHeader site) (s'.prepareHeader site) := by
  have hlength : s'.documentLength site = s.documentLength site := by
    rw [documentLength, documentLength, h.connection]
  rw [Session.prepareHeader, Session.prepareHeader, hlength]
  split
  · exact ⟨rfl, h⟩
  · exact ⟨rfl, (h.update _).startBody _⟩

/-! ### Calls -/

theorem readable [Socket S] (h : Alike e e' s s') (site : Site) (hangup : Bool) :
    EndAlike e e' (s.readable site hangup) (s'.readable site hangup) := by
  rw [Session.readable, Session.readable, h.connection]
  split
  · exact (h.enter _).receive _
  · exact h.receive _
  · exact ⟨rfl, h⟩
  · split
    · exact ⟨rfl, h.note _ _ _ _⟩
    · exact ⟨rfl, h⟩

theorem writable [Sink S] (h : Alike e e' s s') (site : Site) :
    EndAlike e e' (s.writable site) (s'.writable site) := by
  rw [Session.writable, Session.writable, h.connection]
  split
  · exact ⟨rfl, h⟩
  · exact ⟨rfl, h⟩
  · exact ⟨rfl, h.processRequest site⟩
  · exact ⟨rfl, h.prepareNotFound site⟩
  · exact h.prepareHeader site
  · exact h.sendData site
  · exact h.sendChunk site
  all_goals exact ⟨rfl, h⟩

/-- A call goes the same way. -/
theorem handle [Socket S] (h : Alike e e' s s') (site : Site) (signal : Signal) :
    EndAlike e e' (s.handle site signal) (s'.handle site signal) := by
  cases signal with
  | readable hangup => exact finish (h.readable site hangup)
  | writable => exact finish (h.writable site)

end Alike

end Session

end FileServer
