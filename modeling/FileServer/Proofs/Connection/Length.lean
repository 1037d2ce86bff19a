import FileServer.Proofs.Connection.Wire

/-!
# The announced length is honest

The length of a body is announced once, and the body is moved later, in many calls and in
two ways, while files may be rewritten, cut short or removed. Still

* what is announced, the position and what remains belong together, and no more than
  what was announced goes out (`Session.HonestState`);
* each call adds bytes that the file holds at their place when the call is made, counts
  them, and gives the connection up where the file ends too early
  (`Session.HonestCall`).

`World.Reached.honest_length` says so of every run in which the files, and even the settings,
are others at each call.
-/

namespace FileServer

variable {S : Type}

/-- Files, settings and whatever is behind the socket change at will. Nobody else puts
    bytes on the socket, and no completion of another request waits in the engine, where no
    handler leaves one (`Session.waiting_handle`). -/
def World.changing (S : Type) : World (Recorded S) where
  begins b := b.sent = []
  drifts b b' := b'.sent = b.sent
  engines e := e.waiting = []
  sites _ := True

namespace Connection

/-- A call meets the end of the file before the announced length: straight from the file
    it comes to the end and something remains, or the next chunk reaches over the end. -/
def RunsOut (site : Site) (c c' : Connection) : Prop :=
  (c.phase = .sendingData ∧ Session.isDirect c ∧ c'.header.remaining = 0 ∧
    (c.backing site).length ≤ c'.body.offset ∧ 0 < c'.body.remaining) ∨
  (c.phase = .movingChunks ∧ 0 < c.chunkLength site ∧
    (c.backing site).length < c.body.offset + c.chunkLength site)

variable {site : Site} {quiet : Prop} {next : Next} {w : Bytes} {c c' : Connection}

/-- A connection whose file runs out is given up. -/
theorem Output.close_of_runsOut (h : Output site quiet c next w c') (hq : quiet)
    (hc : c.InOrder) (hout : c.RunsOut site c') : next = .close ∧ ¬c'.phase.isFinal := by
  rcases hout with ⟨hp, hd, hheader, hend, hrem⟩ | ⟨hp, hn, hend⟩
  · -- Straight from the file: what is left of the header, or of the body, tells the cases apart.
    rw [InOrder, hp] at hc
    cases h with
    | sendsHeaderPart _ hk =>
      rw [passHeader, SendBuffer.remaining_advance] at hheader
      omega
    | sendsHeader _ hnone =>
      have hzero : c.body.remaining = 0 := hnone.elim hc.2.2.2.2 id
      exact absurd hzero (Nat.ne_of_gt hrem)
    | sendsBodyPart _ _ _ _ hnext =>
      rcases hnext with ⟨-, hlt⟩ | hclose
      · exact absurd hend (Nat.not_le_of_lt hlt)
      · refine ⟨hclose, ?_⟩
        rw [passBody, passHeader, hp]
        decide
    | sendsBody => simp [goTo, passBody, passHeader] at hrem
    | turnsToChunks _ _ _ hnd => exact absurd hd hnd
    | _ => simp_all [Phase.isFinal]
  · -- In chunks: one that was moved lies within the file.
    rw [InOrder, hp] at hc
    cases h with
    | movesChunk chunk _ _ hbytes =>
      obtain ⟨rfl, hlen⟩ := hbytes hq
      rw [FileBody.length_slice] at hlen
      omega
    | losesChunk => exact ⟨rfl, by rw [hp]; decide⟩
    | movesNothing _ hfile => simp [hfile] at hc
    | _ => simp_all [Phase.isFinal]

end Connection

namespace Session

open Connection

/-- The chunk is read, and the write of what was read fails or is cut short. -/
def ChunkWriteFails [Sink S] (site : Site) (s : Session S) : Prop :=
  ∃ id, s.connection.file = some id ∧
    let n := s.connection.chunkLength site
    let read := s.engine.readAt site.tree ⟨id, s.connection.body.offset, n⟩
      (s.connection.chunk.widen n)
    read.result = .ok n ∧ (read.engine.writeFrom s.socket (read.world.toBytes.take n)).result ≠ .ok n

/-- Bytes of a chunk that is given up only go out if its write fails. -/
theorem chunkWriteFails_of_close [Sink S] {site : Site} {s : Session (Recorded S)}
    (hclose : wish (s.sendChunk site).1 = .close)
    (hsent : (s.sendChunk site).2.socket.sent ≠ s.socket.sent) : s.ChunkWriteFails site := by
  rw [sendChunk] at hclose hsent
  cases hfile : s.connection.file with
  | none =>
    rw [hfile] at hclose
    simp [wish] at hclose
  | some id =>
    refine ⟨id, hfile, ?_⟩
    rw [hfile] at hclose hsent
    simp only at hclose hsent
    -- A read that fails or is cut short puts nothing on the socket.
    split at hclose
    · rename_i e he
      rw [he] at hsent
      exact absurd rfl hsent
    rename_i m hm
    rw [hm] at hsent
    split at hclose
    · rename_i hmn
      subst hmn
      refine ⟨hm, fun hwrite => ?_⟩
      -- A write of all of the chunk is followed by more.
      rw [writeChunk] at hclose
      simp only [chunkLength, afterRequest, update] at hwrite hclose
      rw [hwrite] at hclose
      simp [wish] at hclose
    · rename_i hmn
      simp only [if_neg hmn] at hsent
      exact absurd rfl hsent

/-- What is on the socket behind the header. -/
def bodySent (s : Session (Recorded S)) : Bytes :=
  s.socket.sent.drop s.connection.header.content.length

/-- What is on the socket goes with what was announced. -/
structure HonestState (next : Next) (s : Session (Recorded S)) : Prop where
  /-- The header announces the length that the position and what remains add up to. -/
  announced : s.connection.phase.isAnnounced → s.connection.Announced
  /-- On the socket is a part of the header, and the body behind all of it. -/
  wire : s.connection.Wire s.socket.sent s.bodySent
  bounded : s.bodySent.length ≤ s.connection.bodyLength
  counted : next ≠ .close → s.bodySent.length = s.connection.body.offset
  complete : s.connection.phase.isFinal → s.bodySent.length = s.connection.bodyLength

/-- The body on the socket is counted, but for a part of a chunk that was given up. -/
structure OnWire (next : Next) (s : Session (Recorded S)) : Prop where
  inOrder : s.connection.InOrder
  wire : s.connection.Wire s.socket.sent s.bodySent
  counted : s.bodySent.length = s.connection.body.offset ∨
    (next = .close ∧ s.connection.phase = .movingChunks ∧
      s.bodySent.length < s.connection.body.offset + s.connection.body.remaining)

variable {next : Next} {s : Session (Recorded S)}

theorem OnWire.honestState (h : s.OnWire next) : s.HonestState next where
  announced := h.inOrder.announced
  wire := h.wire
  bounded := by
    by_cases hp : s.connection.phase.isAnnounced
    · have hlen := (h.inOrder.announced hp).length
      rcases h.counted with hc | ⟨-, -, hc⟩ <;> omega
    · have hbody := (h.inOrder.unanswered hp).body
      rcases h.counted with hc | ⟨-, -, hc⟩
      · rw [hc, hbody]
        exact Nat.zero_le _
      · simp [hbody] at hc
  counted hn := h.counted.resolve_right fun hc => hn hc.1
  complete hp := by
    rcases h.counted with hc | ⟨-, hm, -⟩
    · exact hc.trans (h.inOrder.complete hp).offset_eq
    · rw [hm] at hp
      cases hp

/-- Only the connection and what is on the socket count. -/
theorem OnWire.congr {s' : Session (Recorded S)} (hs : s.OnWire next)
    (hc : s'.connection = s.connection) (hsent : s'.socket.sent = s.socket.sent) :
    s'.OnWire next := by
  have hbody : s'.bodySent = s.bodySent := by rw [bodySent, bodySent, hc, hsent]
  refine ⟨hc ▸ hs.inOrder, ?_, ?_⟩
  · rw [hbody, hc, hsent]
    exact hs.wire
  · rw [hbody, hc]
    exact hs.counted

/-- At first nothing is on the socket. -/
theorem onWire_new {token : UInt64} {peer : String} {socket : Recorded S} {engine : Engine}
    {notes : List Note} (h : socket.sent = []) :
    OnWire .read ⟨{ token := token, peer := peer }, socket, engine, notes⟩ :=
  ⟨⟨⟨rfl, rfl, rfl, rfl⟩, rfl⟩, ⟨by simp [bodySent, h], .inr rfl⟩, .inl (by simp [bodySent, h])⟩

variable [Socket S]

/-- What a call puts on the socket, and what it wants then, go with the file. -/
structure HonestCall (site : Site) (signal : Signal) (s : Session (Recorded S))
    (handled : Next × Session (Recorded S)) : Prop where
  kept : s.bodySent <+: handled.2.bodySent
  /-- A byte that is added is the one that the file holds at its place. -/
  added : ∀ i, s.bodySent.length ≤ i → i < handled.2.bodySent.length →
    handled.2.bodySent[i]? = (s.connection.backing site)[i]?
  /-- All of the body is counted, unless the write of a chunk failed. -/
  counted : handled.2.bodySent.length = handled.2.connection.body.offset ∨
    (signal = .writable ∧ s.connection.phase = .movingChunks ∧ s.ChunkWriteFails site ∧
      handled.1 = .close ∧ handled.2.connection.phase = .movingChunks ∧
      handled.2.connection.body.offset ≤ handled.2.bodySent.length ∧
      handled.2.bodySent.length ≤ handled.2.connection.body.offset +
        min site.settings.chunkSize handled.2.connection.body.remaining)
  /-- A connection whose file runs out is given up. -/
  exhausted : signal = .writable → s.connection.RunsOut site handled.2.connection →
    handled.1 = .close ∧ ¬handled.2.connection.phase.isFinal

variable (site : Site) (signal : Signal)

/-- Where a part of a chunk is out that is not counted, the write of the chunk failed. -/
theorem chunkWriteFails_of_overruns {site : Site} {signal : Signal} {more : Bytes}
    (hsent : (s.handle site signal).2.socket.sent = s.socket.sent ++ more)
    (h : Overruns site s.connection (s.handle site signal).2.connection
      (s.handle site signal).1 more) : signal = .writable ∧ s.ChunkWriteFails site := by
  have hne : (s.handle site signal).2.socket.sent ≠ s.socket.sent := fun heq =>
    h.ne_nil (List.append_right_eq_self.1 (hsent.symm.trans heq))
  cases signal with
  | readable hangup =>
    exact absurd (onReadable_frame Recorded.sent_receive site hangup s).2 hne
  | writable =>
    refine ⟨rfl, ?_⟩
    have hclose := h.closes
    rw [handle, onWritable, finish_fst, writable, h.phase] at hclose
    rw [handle, onWritable, finish_socket, writable, h.phase] at hne
    exact chunkWriteFails_of_close hclose hne

/-- What a call does, seen from behind the header. -/
theorem bodySent_handle (hq : s.engine.waiting = []) (hs : s.OnWire next) (hn : next ≠ .close) :
    ∃ more, (s.handle site signal).2.connection.Wire (s.handle site signal).2.socket.sent
        (s.bodySent ++ more) ∧
      (s.handle site signal).2.bodySent = s.bodySent ++ more ∧
      more <+: (s.connection.backing site).drop s.bodySent.length ∧
      ((s.handle site signal).2.bodySent.length =
          (s.handle site signal).2.connection.body.offset ∨
        Overruns site s.connection (s.handle site signal).2.connection
          (s.handle site signal).1 more) := by
  have hlen : s.bodySent.length = s.connection.body.offset :=
    hs.counted.resolve_right fun h => hn h.1
  obtain ⟨more, hw, hmore, hoff⟩ := carries_handle site signal hq hs.inOrder hs.wire hlen
  have hbody : (s.handle site signal).2.bodySent = s.bodySent ++ more := hw.drop_eq
  refine ⟨more, hw, hbody, hlen ▸ hmore, hoff.imp_left fun h => ?_⟩
  rw [hbody, List.length_append, h, hlen]

/-- The part of a chunk that is out and not counted is a part of what remains. -/
theorem lt_of_overruns {site : Site} {signal : Signal} {more : Bytes}
    (hlen : s.bodySent.length = s.connection.body.offset)
    (hbody : (s.handle site signal).2.bodySent = s.bodySent ++ more)
    (h : Overruns site s.connection (s.handle site signal).2.connection
      (s.handle site signal).1 more) :
    (s.handle site signal).2.connection.body.offset ≤ (s.handle site signal).2.bodySent.length ∧
      (s.handle site signal).2.bodySent.length < (s.handle site signal).2.connection.body.offset +
        min site.settings.chunkSize (s.handle site signal).2.connection.body.remaining := by
  have hshort := h.short
  rw [h.body, hbody, List.length_append, hlen]
  rw [chunkLength] at hshort
  omega

theorem onWire_handle (hq : s.engine.waiting = []) (hs : s.OnWire next) (hn : next ≠ .close) :
    (s.handle site signal).2.OnWire (s.handle site signal).1 := by
  obtain ⟨more, hw, hbody, -, hcount⟩ := bodySent_handle site signal hq hs hn
  refine ⟨inOrder_handle signal hs.inOrder, hbody ▸ hw, hcount.imp_right fun h => ?_⟩
  obtain ⟨-, hlt⟩ := lt_of_overruns (hs.counted.resolve_right fun h => hn h.1) hbody h
  exact ⟨h.closes, h.stays, Nat.lt_of_lt_of_le hlt (Nat.add_le_add_left (Nat.min_le_right _ _) _)⟩

theorem honestCall_handle (hq : s.engine.waiting = []) (hs : s.OnWire next) (hn : next ≠ .close) :
    s.HonestCall site signal (s.handle site signal) := by
  obtain ⟨more, hw, hbody, hmore, hcount⟩ := bodySent_handle site signal hq hs hn
  refine ⟨hbody ▸ List.prefix_append _ _, fun i hle hlt => ?_, ?_, ?_⟩
  · -- What is added begins at the position.
    obtain ⟨rest, hrest⟩ := hmore
    rw [hbody, List.length_append] at hlt
    have hi : i - s.bodySent.length < more.length := by omega
    rw [hbody, List.getElem?_append_right hle, ← List.getElem?_append_left hi, hrest,
      List.getElem?_drop, Nat.add_sub_cancel' hle]
  · refine hcount.imp_right fun h => ?_
    have hsent : (s.handle site signal).2.socket.sent = s.socket.sent ++ more := by
      rw [hw.sent_eq, h.header, ← List.append_assoc, ← hs.wire.sent_eq]
    obtain ⟨hsignal, hfails⟩ := chunkWriteFails_of_overruns hsent h
    obtain ⟨hle, hlt⟩ := lt_of_overruns (hs.counted.resolve_right fun h => hn h.1) hbody h
    exact ⟨hsignal, h.phase, hfails, h.closes, h.stays, hle, Nat.le_of_lt hlt⟩
  · rintro rfl hout
    obtain ⟨w, ho, -⟩ := ends_writable site s
    rw [handle, onWritable, finish_connection] at hout
    rw [handle, onWritable, finish_fst, finish_connection]
    exact ho.close_of_runsOut hq hs.inOrder hout

end Session

namespace World

variable [Socket S] {next : Next} {s : Session (Recorded S)}

theorem Reached.onWire (h : (changing S).Reached (next, s)) : s.OnWire next := by
  refine h.induction (motive := fun next s => s.OnWire next) ?_ ?_
  · intro token peer socket engine notes hb
    exact Session.onWire_new hb
  · intro next s s' site signal _ hn he _ hs
    exact Session.onWire_handle site signal he.engine (hs.congr he.connection he.socket) hn

/-- Whatever becomes of the files during a run, what is on the socket goes with what was
    announced, and each call puts bytes of the file there. -/
theorem Reached.honest_length (h : (changing S).Reached (next, s)) :
    s.HonestState next ∧ ∀ {s' : Session (Recorded S)} {site : Site} (signal : Signal),
      next ≠ .close → (changing S).Elapses s s' →
        s'.HonestCall site signal (s'.handle site signal) := by
  refine ⟨h.onWire.honestState, fun signal hn he => ?_⟩
  exact Session.honestCall_handle _ signal he.engine (h.onWire.congr he.connection he.socket) hn

/-- A page of two bytes is announced and then emptied: the connection is given up. -/
theorem honest_length_cut :
    (changing Duplex).Reached Visit.announced ∧ Visit.announced.2.connection.bodyLength = 2 ∧
      (Visit.announced.2.handle (Visit.site []) .writable).1 = .close := by
  have h : (changing Duplex).Reached (Visit.announced.1, Visit.announced.2) :=
    Visit.reached_announced rfl (fun _ => rfl) rfl trivial
  have hquiet : Visit.announced.2.engine.waiting = [] := by rw [Visit.announced_engine]
  have hcut : Visit.announced.2.HonestCall (Visit.site []) .writable
      (Visit.announced.2.handle (Visit.site []) .writable) :=
    (Reached.honest_length h).2 .writable Visit.announced_next ⟨rfl, rfl, hquiet⟩
  -- The first attempt to send something of the file finds nothing.
  have hbody : Visit.announced.2.connection.body = ⟨0, 2⟩ := by rw [Visit.announced_eq]; rfl
  have hrun : FileBody.run [] ⟨0, 2⟩ Visit.filled =
      (.error FileBody.endedEarly, ⟨0, 2⟩, Visit.filled) := by
    rw [FileBody.run, dif_pos (by decide)]
    rfl
  refine ⟨h, by rw [Visit.announced_eq]; rfl, (hcut.exhausted rfl (.inl ?_)).1⟩
  rw [Session.handle, Session.onWritable, Session.finish_connection, Visit.writable_announced,
    Session.sendBody]
  simp only [Session.update_connection, Session.update_socket, hbody,
    show Session.contentOf (Visit.site []) 0 = [] from rfl, hrun]
  rw [Visit.announced_eq]
  exact ⟨rfl, rfl, rfl, Nat.le_refl _, by decide⟩

end World

end FileServer
