import FileServer.Proofs.Connection.Request
import FileServer.Proofs.Http.BlankLine
import FileServer.Proofs.Socket.Fed

/-!
# Receiving loses nothing and misses nothing

Whatever way a stream of bytes comes in, what a connection has received is a beginning of
it, and together with what is still to come it is the stream (`Session.InStream`). The
search for the blank line, though it begins again only three bytes before what is new,
misses none: as long as a connection receives, there is none in all that it has, and when
it stops, there is one or the size is reached.

`World.Reached.receives_stream` says so of every run, with a bound on the reads of each call.
-/

namespace FileServer

variable {S : Type}

/-- A stream comes in through the socket, and the largest size of a request stays as it
    is. -/
def World.fed (S : Type) (stream : Bytes) (limit : Nat) : World (Fed S) where
  begins b := b.rest = stream
  drifts b b' := b'.rest = b.rest
  engines _ := True
  sites site := site.settings.maxRequestSize = limit

namespace Session

/-- What was received goes with the stream and with the phase. -/
structure InStream (stream : Bytes) (limit : Nat) (s : Session (Fed S)) : Prop where
  stream_eq : s.connection.received ++ s.socket.rest = stream
  length_le : s.connection.received.length ≤ limit
  initial : s.connection.phase = .initial → s.connection.received = []
  receiving : s.connection.phase = .receiving →
    ¬blankLine <:+: s.connection.received ∧ s.connection.received.length < limit
  /-- Receiving stopped at a blank line or at the size, and within the read that brought the
      blank line. -/
  complete : ¬s.connection.isEarly →
    (blankLine <:+: s.connection.received ∨ s.connection.received.length = limit) ∧
      ∀ before after, s.connection.received = before ++ blankLine ++ after →
        after.length ≤ 1023

variable {stream : Bytes} {limit : Nat} {s : Session (Fed S)}

/-- Without a blank line and below the size, more is to come. -/
theorem InStream.of_receiving (hp : s.connection.phase = .receiving)
    (hstream : s.connection.received ++ s.socket.rest = stream)
    (hopen : ¬blankLine <:+: s.connection.received)
    (hlt : s.connection.received.length < limit) : s.InStream stream limit where
  stream_eq := hstream
  length_le := Nat.le_of_lt hlt
  initial h := by simp [hp] at h
  receiving _ := ⟨hopen, hlt⟩
  complete h := absurd (.inr hp) h

/-- At the size, or at a blank line that the last read brought, receiving stops. -/
theorem InStream.of_complete {old new : Bytes} (hp : s.connection.phase = .requestReceived)
    (hreceived : s.connection.received = old ++ new)
    (hstream : s.connection.received ++ s.socket.rest = stream) (hopen : ¬blankLine <:+: old)
    (hle : s.connection.received.length ≤ limit) (hnew : new.length ≤ readSize)
    (hstop : blankLine <:+: s.connection.received ∨ s.connection.received.length = limit) :
    s.InStream stream limit where
  stream_eq := hstream
  length_le := hle
  initial h := by simp [hp] at h
  receiving h := by simp [hp] at h
  complete _ := by
    refine ⟨hstop, fun before after heq => ?_⟩
    have hlt := length_lt_of_append_eq hopen (hreceived.symm.trans heq)
    exact Nat.le_of_lt_succ (Nat.lt_of_lt_of_le hlt hnew)

/-- Only the connection and what is still to come count. -/
theorem InStream.congr {t : Session (Fed S)} (h : s.InStream stream limit)
    (hc : t.connection = s.connection) (hrest : t.socket.rest = s.socket.rest) :
    t.InStream stream limit where
  stream_eq := by rw [hc, hrest, h.stream_eq]
  length_le := hc ▸ h.length_le
  initial := hc ▸ h.initial
  receiving := hc ▸ h.receiving
  complete := hc ▸ h.complete

/-- Once the request is there, it stays there as it is. -/
theorem InStream.of_late {t : Session (Fed S)} (h : s.InStream stream limit)
    (hs : ¬s.connection.isEarly) (ht : ¬t.connection.isEarly)
    (hreceived : t.connection.received = s.connection.received)
    (hrest : t.socket.rest = s.socket.rest) : t.InStream stream limit where
  stream_eq := by rw [hreceived, hrest, h.stream_eq]
  length_le := hreceived ▸ h.length_le
  initial h := absurd (.inl h) ht
  receiving h := absurd (.inr h) ht
  complete _ := hreceived ▸ h.complete hs

variable [Socket S]

/-- To receive takes what comes next of the stream, at most up to the size, and stops where
    it has to. -/
theorem receive_inStream (hp : s.connection.phase = .receiving)
    (hstream : s.connection.received ++ s.socket.rest = stream)
    (hopen : ¬blankLine <:+: s.connection.received)
    (hle : s.connection.received.length ≤ limit) :
    (s.receive limit).2.InStream stream limit ∧
      (s.receive limit).2.socket.reads ≤
        s.socket.reads + (limit - s.connection.received.length) := by
  fun_induction receive limit s with
  | case1 s before hfull =>
    -- The size is reached.
    refine ⟨?_, Nat.le_add_right _ _⟩
    exact .of_complete rfl (List.append_nil _).symm hstream hopen hle (Nat.zero_le _)
      (.inr (Nat.le_antisymm hle hfull))
  | case2 s before hroom socket hr =>
    -- The stream ends.
    obtain ⟨-, hrest, hreads⟩ := Fed.receive_eq hr
    refine ⟨.of_receiving hp (by rw [← hstream, hrest]; rfl) hopen (Nat.not_le.1 hroom), ?_⟩
    show socket.reads ≤ _
    omega
  | case3 s before hroom b bs socket hr s' hfound =>
    -- Bytes come, and a blank line is there.
    obtain ⟨hlen, hrest, hreads⟩ := Fed.receive_eq hr
    rw [isSome_findBlankLine?_iff] at hfound
    have hnew := Nat.le_trans hlen (Nat.min_le_right _ _)
    have hroom' := Nat.le_trans hlen (Nat.min_le_left _ _)
    refine ⟨.of_complete rfl rfl ?_ hopen ?_ hnew (.inl ?_), ?_⟩
    · show s.connection.received ++ (b :: bs) ++ socket.rest = stream
      rw [List.append_assoc, ← hrest, hstream]
    · show (s.connection.received ++ (b :: bs)).length ≤ limit
      rw [List.length_append]
      omega
    · exact (infix_drop_append_iff hopen).1 hfound
    · show socket.reads ≤ _
      omega
  | case4 s before hroom b bs socket hr s' hfound ih =>
    -- Bytes come, but no blank line yet.
    obtain ⟨hlen, hrest, hreads⟩ := Fed.receive_eq hr
    rw [isSome_findBlankLine?_iff] at hfound
    have hroom' := Nat.le_trans hlen (Nat.min_le_left _ _)
    have hlen' : s'.connection.received.length = before + (b :: bs).length :=
      List.length_append
    have hpos : 0 < (b :: bs).length := Nat.succ_pos _
    -- The search of the end found nothing, so there is nothing in all of it.
    have hopen' : ¬blankLine <:+: s'.connection.received := fun h =>
      hfound ((infix_drop_append_iff hopen).2 h)
    have hstream' : s'.connection.received ++ s'.socket.rest = stream := by
      show s.connection.received ++ (b :: bs) ++ socket.rest = stream
      rw [List.append_assoc, ← hrest, hstream]
    obtain ⟨hin, hbound⟩ := ih hp hstream' hopen' (by omega)
    refine ⟨hin, Nat.le_trans hbound ?_⟩
    show socket.reads + _ ≤ _
    omega
  | case5 s before hroom socket hr ih =>
    -- The read is interrupted.
    obtain ⟨hrest, hreads⟩ := Fed.receive_eq hr
    obtain ⟨hin, hbound⟩ := ih hp (by rw [← hstream, ← hrest]) hopen hle
    exact ⟨hin, hreads ▸ hbound⟩
  | case6 s before hroom socket hr | case7 s before hroom e socket hr =>
    -- It would block, or it fails.
    obtain ⟨hrest, hreads⟩ := Fed.receive_eq hr
    refine ⟨.of_receiving hp (by rw [← hstream, ← hrest]) hopen (Nat.not_le.1 hroom), ?_⟩
    show socket.reads ≤ _
    omega

/-- Readability takes what comes next of the stream. -/
theorem readable_inStream (site : Site) (hangup : Bool)
    (hs : s.InStream stream site.settings.maxRequestSize) :
    (s.readable site hangup).2.InStream stream site.settings.maxRequestSize ∧
      (s.readable site hangup).2.socket.reads ≤
        s.socket.reads + (site.settings.maxRequestSize - s.connection.received.length) := by
  rw [readable]
  split
  · rename_i hp
    refine receive_inStream (s := s.enter .receiving) rfl hs.stream_eq ?_ hs.length_le
    rw [enter_connection, hs.initial hp]
    decide
  · rename_i hp
    exact receive_inStream hp hs.stream_eq (hs.receiving hp).1 hs.length_le
  · exact ⟨hs, Nat.le_add_right _ _⟩
  · split
    · exact ⟨hs.congr rfl rfl, Nat.le_add_right _ _⟩
    · exact ⟨hs, Nat.le_add_right _ _⟩

/-- Writability takes nothing of it. -/
theorem writable_inStream (site : Site) (hs : s.InStream stream limit) :
    (s.onWritable site).2.InStream stream limit ∧
      (s.onWritable site).2.socket.reads = s.socket.reads := by
  have hsend : (s.onWritable site).2.socket.rest = s.socket.rest ∧
      (s.onWritable site).2.socket.reads = s.socket.reads := by
    rw [onWritable, finish_socket]
    exact Prod.mk.inj (writable_frame (f := fun b : Fed S => (b.rest, b.reads))
      (fun _ _ => rfl) site s)
  obtain ⟨w, ho⟩ := output_onWritable site s
  refine ⟨?_, hsend.2⟩
  by_cases hearly : s.connection.isEarly
  · exact hs.congr (ho.eq_of_early hearly) hsend.1
  · obtain ⟨hlate, hreceived⟩ := ho.stays_late hearly
    exact hs.of_late hearly hlate hreceived hsend.1

theorem handle_inStream (site : Site) (signal : Signal)
    (hs : s.InStream stream site.settings.maxRequestSize) :
    (s.handle site signal).2.InStream stream site.settings.maxRequestSize ∧
      (s.handle site signal).2.socket.reads ≤
        s.socket.reads + (site.settings.maxRequestSize - s.connection.received.length) := by
  cases signal with
  | readable hangup =>
    obtain ⟨hin, hreads⟩ := readable_inStream site hangup hs
    rw [handle, onReadable]
    exact ⟨hin.congr (finish_connection _) (by rw [finish_socket]), by rwa [finish_socket]⟩
  | writable =>
    obtain ⟨hin, hreads⟩ := writable_inStream site hs
    exact ⟨hin, Nat.le_trans (Nat.le_of_eq hreads) (Nat.le_add_right _ _)⟩

end Session

namespace World

variable [Socket S] {stream : Bytes} {limit : Nat} {next : Next} {s : Session (Fed S)}

theorem Reached.inStream (h : (fed S stream limit).Reached (next, s)) :
    s.InStream stream limit := by
  refine h.induction (motive := fun _ s => s.InStream stream limit) ?_ ?_
  · intro token peer socket engine notes hb
    exact ⟨hb, Nat.zero_le _, fun _ => rfl, nofun, fun h => absurd (.inl rfl) h⟩
  · intro next s s' site signal _ _ he hsite hs
    obtain rfl : site.settings.maxRequestSize = limit := hsite
    exact (Session.handle_inStream site signal (hs.congr he.connection he.socket)).1

/-- What was received is a beginning of the stream, within the size and without a blank
    line until receiving stops, and then stays as it is; and a call reads no more often than
    bytes are missing to the size. -/
theorem Reached.receives_stream (h : (fed S stream limit).Reached (next, s)) :
    s.InStream stream limit ∧
    (¬s.connection.isEarly → ∀ {m : Next × Session (Fed S)},
      (fed S stream limit).Later (next, s) m →
        m.2.connection.received = s.connection.received) ∧
    ∀ {s' : Session (Fed S)} {site : Site} (signal : Signal), next ≠ .close →
      (fed S stream limit).Elapses s s' → (fed S stream limit).sites site →
        (s'.handle site signal).2.socket.reads ≤
          s'.socket.reads + (limit - s'.connection.received.length) := by
  refine ⟨h.inStream, fun hlate m hm => (hm.received_eq hlate).2, ?_⟩
  intro s' site signal _ he hsite
  obtain rfl : site.settings.maxRequestSize = limit := hsite
  exact (Session.handle_inStream site signal (h.inStream.congr he.connection he.socket)).2

/-- A connection on whose socket so many bytes of a stream are there to be read. -/
def offered (c : Connection) (rest : Bytes) (count : Nat) : Session (Fed Duplex) :=
  ⟨c, ⟨{ inbound := List.replicate count 0 }, rest, 0⟩, {}, []⟩

/-- A blank line with one byte before it and one behind it. -/
def cutStream : Bytes := [63, 13, 10, 13, 10, 88]

/-- The first three bytes come. -/
def firstPart : Next × Session (Fed Duplex) :=
  (offered { token := 1, peer := "10.0.0.1:4000" } cutStream 3).handle (Visit.site [])
    (.readable false)

/-- The others come. -/
def secondPart : Next × Session (Fed Duplex) :=
  (offered firstPart.2.connection [13, 10, 88] 3).handle (Visit.site []) (.readable false)

theorem firstPart_eq : firstPart = (.read, ((offered { token := 1, peer := "10.0.0.1:4000" }
    cutStream 3).enter .receiving).append ⟨{}, [13, 10, 88], 1⟩ [63, 13, 10]) := by
  show Session.finish (Session.receive 8192 (Session.enter _ .receiving)) = _
  rw [Session.receive]
  -- The first read brings three bytes, and the second one has to wait.
  show Session.finish (Session.receive 8192 (Session.append _ _ [63, 13, 10])) = _
  rw [Session.receive]
  rfl

theorem secondPart_eq : secondPart = (.write, ((offered firstPart.2.connection [13, 10, 88]
    3).append ⟨{}, [], 1⟩ [13, 10, 88]).enter .requestReceived) := by
  rw [secondPart, firstPart_eq]
  show Session.finish (Session.receive 8192 _) = _
  rw [Session.receive]
  rfl

/-- A blank line that comes in two parts is not missed. -/
theorem receives_stream_cut : (fed Duplex cutStream 8192).Reached secondPart ∧
    ¬secondPart.2.connection.isEarly ∧ secondPart.2.connection.received = cutStream ∧
      (blankLine <:+: secondPart.2.connection.received ∨
        secondPart.2.connection.received.length = 8192) := by
  have hnext : firstPart.1 ≠ .close := by
    rw [firstPart_eq]
    decide
  have hrest : [13, 10, 88] = firstPart.2.socket.rest := by
    rw [firstPart_eq]
    rfl
  have h₁ : (fed Duplex cutStream 8192).Reached (firstPart.1, firstPart.2) :=
    .call (.new rfl) (.readable false) (by decide) ⟨rfl, rfl, trivial⟩ rfl
  have h₂ : (fed Duplex cutStream 8192).Reached (secondPart.1, secondPart.2) :=
    h₁.call (.readable false) hnext ⟨rfl, hrest, trivial⟩ rfl
  have hlate : ¬secondPart.2.connection.isEarly := by
    rw [secondPart_eq]
    simp [Connection.isEarly]
  refine ⟨h₂, hlate, ?_, ((Reached.receives_stream h₂).1.complete hlate).1⟩
  rw [secondPart_eq, firstPart_eq]
  rfl

end World

end FileServer
