import FileServer.Proofs.Connection.Attempt
import FileServer.Proofs.Connection.Cutting
import FileServer.Proofs.Connection.InTime

/-!
# Chunks tile the file

A dynamic document is moved in chunks of one size, the last of which may be shorter. Where the
file stays as it is and no request to the engine fails or falls short, the calls that find chunks
to be moved take the file apart into consecutive pieces: the `i`-th of them puts the `i`-th piece
on the socket, and all that is counted goes with `i` (`Session.MovesTile`). So as many of them
come as the file has pieces, and together they put there what goes there straight from the file
(`World.Unbroken.tiles`).

* The position is a multiple of the size as long as chunks are moved (`Connection.InStep`).
* What is on the socket behind the header is a beginning of the file (`Session.Portrays`).
* Whatever is left in the buffer that chunks pass through, none of it goes out
  (`Session.sendChunk_restale`).
-/

namespace FileServer

variable {S : Type}

/-- The last piece is the one that reaches to the end. -/
theorem add_one_eq_ceilDiv_iff {n size k : Nat} (hsize : 0 < size) (h : k * size < n) :
    k + 1 = n ⌈/⌉ size ↔ n ≤ (k + 1) * size := by
  have hlt : k < n ⌈/⌉ size := by
    rw [← not_le, ceilDiv_le_iff_le_mul hsize, Nat.mul_comm]
    exact Nat.not_le_of_lt h
  have hle : n ⌈/⌉ size ≤ k + 1 ↔ n ≤ (k + 1) * size := by
    rw [ceilDiv_le_iff_le_mul hsize, Nat.mul_comm]
  rw [← hle]
  omega

namespace Connection

variable {site : Site} {quiet : Prop} {next : Next} {w : Bytes} {c c' : Connection} {size : Nat}
  {id : FileId} {content : Bytes}

/-- The position goes with the count of chunks. -/
structure InStep (size : Nat) (c : Connection) : Prop where
  sending : c.phase = .sendingData → Session.isDirect c ∨ c.body.offset = 0
  moving : c.phase = .movingChunks → c.body.offset = c.chunks * size
  sent : c.phase = .dataSent → c.resource = .dynamic → c.chunks = c.bodyLength ⌈/⌉ size

/-- Where no body is on its way, nothing is to be said. -/
theorem InStep.of_phase (hs : c.phase ≠ .sendingData) (hm : c.phase ≠ .movingChunks)
    (hd : c.phase ≠ .dataSent) : c.InStep size :=
  ⟨fun h => absurd h hs, fun h => absurd h hm, fun h => absurd h hd⟩

theorem InStep.of_sending (hp : c.phase = .sendingData)
    (h : Session.isDirect c ∨ c.body.offset = 0) : c.InStep size :=
  ⟨fun _ => h, by simp [hp], by simp [hp]⟩

theorem InStep.of_moving (hp : c.phase = .movingChunks) (h : c.body.offset = c.chunks * size) :
    c.InStep size :=
  ⟨by simp [hp], fun _ => h, by simp [hp]⟩

theorem InStep.of_sent (hp : c.phase = .dataSent)
    (h : c.resource = .dynamic → c.chunks = c.bodyLength ⌈/⌉ size) : c.InStep size :=
  ⟨by simp [hp], by simp [hp], fun _ => h⟩

theorem Intake.inStep (h : Intake c next c') (hs : c.InStep size) : c'.InStep size := by
  cases h with
  | receives | completes => exact .of_phase nofun nofun nofun
  | ignores => exact hs

theorem inStep_announce (c : Connection) (header : ResponseHeader) :
    (c.announce header).InStep size :=
  .of_sending rfl (.inr rfl)

/-- A chunk that is moved moves the position by the size, or is the last one. -/
theorem inStep_passChunk {chunk : LazyBytes} (hsize : 0 < size) (hp : c.phase = .movingChunks)
    (hc : c.InOrder) (hs : c.InStep size) :
    (c.passChunk (min size c.body.remaining) chunk).InStep size := by
  rw [InOrder, hp] at hc
  obtain ⟨ha, -, -, -, -, hrem⟩ := hc
  have hlen := ha.length
  have hoff := hs.moving hp
  have hnext : (c.chunks + 1) * size = c.chunks * size + size := Nat.succ_mul _ _
  by_cases hz : c.body.remaining - min size c.body.remaining = 0
  · refine .of_sent (if_pos hz) fun _ => ?_
    show c.chunks + 1 = c.bodyLength ⌈/⌉ size
    exact (add_one_eq_ceilDiv_iff hsize (by omega)).2 (by omega)
  · refine .of_moving ((if_neg hz).trans hp) ?_
    show c.body.offset + min size c.body.remaining = (c.chunks + 1) * size
    omega

/-- A body that went straight from the file is that of no dynamic document. -/
theorem inStep_goTo_finalPhase (h : c.status = .ok → c.bodyLength ≠ 0 → c.resource ≠ .dynamic) :
    (c.goTo c.finalPhase).InStep size := by
  have hfinal : c.finalPhase.isFinal := isFinal_finalPhase c
  refine ⟨fun hp => ?_, fun hp => ?_, fun hp hres => ?_⟩
  · rw [show c.finalPhase = .sendingData from hp] at hfinal
    cases hfinal
  · rw [show c.finalPhase = .movingChunks from hp] at hfinal
    cases hfinal
  · have hp' : c.finalPhase = .dataSent := hp
    rw [finalPhase] at hp'
    cases hstatus : c.status with
    | notFound =>
      rw [hstatus] at hp'
      cases hp'
    | ok =>
      rw [hstatus] at hp'
      refine absurd hres (h hstatus fun hzero => ?_)
      rw [if_pos hzero] at hp'
      cases hp'

/-- Writability keeps the position in step. -/
theorem Output.inStep (h : Output site quiet c next w c') (hsize : site.settings.chunkSize = size)
    (hpos : 0 < size) (hc : c.InOrder) (hs : c.InStep size) : c'.InStep size := by
  cases h with
  | early | late | loses => exact hs
  | finds | misses => exact .of_phase nofun nofun nofun
  | announcesPage | announcesNothing | announcesDocument | announcesNoDocument =>
    exact inStep_announce _ _
  | sendsHeaderPart hp =>
    exact .of_sending hp (hs.sending hp)
  | sendsHeader hp hnone =>
    -- Nothing remains, so a body that is to be moved in chunks has none.
    have hsending := hs.sending hp
    rw [InOrder, hp] at hc
    obtain ⟨ha, -, -, -, hfile⟩ := hc
    have hrem : c.body.remaining = 0 := hnone.elim hfile id
    have hlen := ha.length
    refine inStep_goTo_finalPhase (c := c.passHeader c.header.remaining) fun hstatus hne hres => ?_
    have hstatus' : c.status = .ok := hstatus
    have hres' : c.resource = .dynamic := hres
    rcases hsending with hd | hoff
    · simp [Session.isDirect, hstatus', hres'] at hd
    · exact hne (show c.bodyLength = 0 by omega)
  | sendsBodyPart hp hd =>
    exact .of_sending hp (.inl hd)
  | sendsBody hp hd =>
    -- What goes straight from the file is not moved in chunks.
    refine inStep_goTo_finalPhase
      (c := (c.passHeader c.header.remaining).passBody c.body.remaining) fun hstatus _ hres => ?_
    have hstatus' : c.status = .ok := hstatus
    have hres' : c.resource = .dynamic := hres
    simp [Session.isDirect, hstatus', hres'] at hd
  | turnsToChunks hp hfile hrem hd =>
    -- No chunk was moved yet, and nothing of the body.
    have hoff := (hs.sending hp).resolve_left hd
    rw [InOrder, hp] at hc
    refine .of_moving rfl ?_
    show c.body.offset = c.chunks * size
    rw [hoff, hc.2.1, Nat.zero_mul]
  | movesChunk chunk hp =>
    subst hsize
    exact inStep_passChunk hpos hp hc hs
  | losesChunk chunk hp =>
    exact .of_moving hp (hs.moving hp)
  | movesNothing hp hfile => exact absurd hfile (hc.file_ne_none (.inr hp))

/-- The announced length of a document that stays the same is its length. -/
def Measures (id : FileId) (content : Bytes) (c : Connection) : Prop :=
  c.phase.isAnnounced → c.file = some id → c.status = .ok → c.bodyLength = content.length

theorem Intake.measures (h : Intake c next c') (hm : c.Measures id content) :
    c'.Measures id content := by
  cases h with
  | receives | completes => exact nofun
  | ignores => exact hm

theorem Output.measures (h : Output site quiet c next w c')
    (hcontent : site.tree.content? id = some content) (hm : c.Measures id content) :
    c'.Measures id content := by
  cases h with
  | early | late | loses => exact hm
  | finds | misses => exact nofun
  | announcesPage | announcesNothing => exact nofun
  | announcesDocument hp hfile hcontent' =>
    intro _ hfile' _
    obtain rfl := Option.some.inj (hfile.symm.trans hfile')
    obtain rfl := Option.some.inj (hcontent.symm.trans hcontent')
    rfl
  | announcesNoDocument hp hfile =>
    intro _ hfile' _
    cases hfile.symm.trans hfile'
  | sendsHeaderPart hp | sendsHeader hp | sendsBodyPart hp | sendsBody hp | turnsToChunks hp
  | movesChunk _ hp | losesChunk _ hp | movesNothing hp =>
    exact fun _ hfile hstatus => hm (by rw [hp]; rfl) hfile hstatus

/-- Where a chunk is counted, it was moved. -/
theorem Output.movesChunk_of_counted (h : Output site quiet c next w c')
    (hcount : c'.chunks = c.chunks + 1) : next = .write ∧
      (∃ chunk, c' = c.passChunk (c.chunkLength site) chunk) ∧
      (quiet → w = FileBody.slice (c.backing site) c.body.offset (c.chunkLength site)) := by
  cases h with
  | movesChunk chunk _ _ hbytes => exact ⟨rfl, ⟨chunk, rfl⟩, fun hq => (hbytes hq).1⟩
  | _ => exact absurd hcount (Nat.ne_of_lt (Nat.lt_succ_self _))

/-- A call opens a file only where none was open, and nothing of a body is out. -/
theorem Output.file_eq_or (h : Output site quiet c next w c') (hc : c.InOrder) :
    c'.file = c.file ∨ c.file = none ∧ c.body.offset = 0 := by
  cases h with
  | finds hp | announcesPage hp | announcesNothing hp =>
    rw [InOrder, hp] at hc
    exact .inr ⟨hc.2, by rw [hc.1.body]⟩
  | _ => exact .inl rfl

end Connection

namespace Session

open Connection

/-! ### One chunk -/

section

variable {site : Site} {s : Session S} {id : FileId}

/-- Of the buffer, only the chunk goes out. -/
theorem writeChunk_socket [Sink S] (s : Session S) (n : Nat) : (s.writeChunk n).2.socket =
    (s.engine.writeFrom s.socket (s.connection.chunk.toBytes.take n)).world := by
  rw [writeChunk]
  split
  · rfl
  split
  · rw [(countChunk_frame _ _).1]
  · rfl

/-- The session with something else in the buffer that chunks pass through. -/
def restale (s : Session S) (stale : Bytes) : Session S :=
  s.update fun c => { c with chunk := stale }

/-- What reading a chunk comes to does not depend on the buffer. -/
theorem reading_restale (hq : s.engine.waiting = []) (stale : Bytes) :
    (s.restale stale).reading site id = s.reading site id := by
  have hverdict : ∀ buffer : LazyBytes, s.engine.reading site.tree (s.chunkRange site id) buffer =
      s.engine.reading site.tree (s.chunkRange site id) (.ofBytes []) := by
    intro buffer
    rw [Engine.reading, Engine.reading, Engine.errand, Engine.errand, Engine.result_runOne hq,
      Engine.result_runOne hq, readFile, readFile]
    split
    · rfl
    · split <;> rfl
  exact (hverdict _).trans (hverdict _).symm

/-- What a chunk was filled with is what the file holds. -/
theorem take_chunk_afterRead (hq : s.engine.waiting = [])
    (h : (s.reading site id).gives (s.connection.chunkLength site)) :
    (s.afterRead site id).connection.chunk.toBytes.take (s.connection.chunkLength site) =
      FileBody.slice (contentOf site id) s.connection.body.offset
        (s.connection.chunkLength site) := by
  have hresult : (s.chunkRead site id).result = .ok (s.connection.chunkLength site) :=
    Errand.gives_iff.1 h
  obtain ⟨content, hcontent, -, htake⟩ := Engine.readAt_filled hq hresult
  have hcontent' : site.tree.content? id = some content := hcontent
  rw [contentOf, hcontent', Option.getD_some]
  exact htake

/-- A call that finds chunks of an open file attempts to move one. -/
theorem attempt?_of_file [Sink S] (hp : s.connection.phase = .movingChunks)
    (hfile : s.connection.file = some id) :
    s.attempt? site .writable = some (s.attempt site id) := by
  rw [attempt?, if_pos hp, hfile, Option.map_some]

/-- A chunk that was moved had been filled. -/
theorem gives_of_moved [Sink S] (h : (s.attempt site id).moved = true) :
    (s.reading site id).gives (s.connection.chunkLength site) := by
  rcases hgives : (s.reading site id).gives (s.connection.chunkLength site) with _ | _
  · rw [attempt, if_neg (by simp [hgives])] at h
    cases h
  · rfl

/-- Whatever is left in the buffer, a chunk that is filled goes out as it is. -/
theorem sendChunk_restale [Sink S] (hq : s.engine.waiting = [])
    (hfile : s.connection.file = some id)
    (h : (s.reading site id).gives (s.connection.chunkLength site)) (stale : Bytes) :
    ((s.restale stale).sendChunk site).2.socket = (s.sendChunk site).2.socket := by
  have hreading : (s.restale stale).reading site id = s.reading site id :=
    reading_restale hq stale
  have h' : ((s.restale stale).reading site id).gives
      ((s.restale stale).connection.chunkLength site) := by rw [hreading]; exact h
  have hengine : ((s.restale stale).afterRead site id).engine = (s.afterRead site id).engine := by
    have hspent : (s.afterRead site id).engine = s.engine.spend 1 (s.reading site id).accepted :=
      Engine.engine_runOne hq
    have hspent' : ((s.restale stale).afterRead site id).engine =
        s.engine.spend 1 ((s.restale stale).reading site id).accepted := Engine.engine_runOne hq
    rw [hspent, hspent', hreading]
  rw [sendChunk_of_filled (s := s.restale stale) hfile h', sendChunk_of_filled hfile h,
    writeChunk_socket, writeChunk_socket, hengine, take_chunk_afterRead hq h,
    take_chunk_afterRead (s := s.restale stale) hq h']
  rfl

end

variable [Socket S] {site : Site} {s : Session (Recorded S)}

/-- A call after which the connection is not to be closed moved its chunk. -/
theorem moved_of_ne_close {signal : Signal} (hq : s.engine.waiting = [])
    (hgo : (s.handle site signal).1 ≠ .close) :
    ∀ a ∈ s.attempt? site signal, a.moved = true := by
  intro a ha
  cases hmoved : a.moved with
  | true => rfl
  | false =>
    exact absurd ((attempted_handle site signal hq).last a (Option.mem_toList.2 ha) hmoved).1 hgo

/-- A chunk that is moved is counted, and costs two requests. -/
theorem movesChunk_of_moved (hq : s.engine.waiting = []) (hc : s.connection.InOrder)
    (hp : s.connection.phase = .movingChunks)
    (hmoved : ∀ a ∈ s.attempt? site .writable, a.moved = true) :
    (s.onWritable site).1 = .write ∧
      (∃ chunk, (s.onWritable site).2.connection =
        s.connection.passChunk (s.connection.chunkLength site) chunk) ∧
      (s.onWritable site).2.socket.sent = s.socket.sent ++
        FileBody.slice (s.connection.backing site) s.connection.body.offset
          (s.connection.chunkLength site) ∧
      ∃ tags, (s.onWritable site).2.engine = s.engine.spend tags 2 := by
  have hattempted := attempted_handle site .writable hq
  obtain ⟨id, hfile⟩ := Option.ne_none_iff_exists'.1 (hc.file_ne_none (.inr hp))
  have hattempt : s.attempt? site .writable = some (s.attempt site id) :=
    attempt?_of_file hp hfile
  have hone : (s.attempt site id).moved = true := hmoved _ hattempt
  -- The one attempt of the call had both of its requests accepted.
  rw [hattempt, Option.toList_some] at hattempted
  obtain ⟨tags, hengine⟩ := hattempted.engine
  have htwo := (hattempted.own _ List.mem_cons_self).accepted_of_moved hone
  rw [Attempt.allAccepted, List.map_singleton, List.sum_singleton, htwo] at hengine
  have hchunks := hattempted.chunks
  rw [List.countP_singleton, hone] at hchunks
  obtain ⟨w, ho, hsent⟩ := sent_onWritable site s
  obtain ⟨hwrite, hchunk, hbytes⟩ := ho.movesChunk_of_counted hchunks
  exact ⟨hwrite, hchunk, hbytes hq ▸ hsent, tags, hengine⟩

/-! ### From call to call -/

/-- What is on the socket and what is counted go with a file that stays the same. -/
structure Portrays (size : Nat) (id : FileId) (content : Bytes) (s : Session (Recorded S)) :
    Prop where
  inStep : s.connection.InStep size
  measures : s.connection.Measures id content
  body : s.connection.file = some id → s.bodySent <+: content

variable {size : Nat} {id : FileId} {content : Bytes} {next : Next}

omit [Socket S] in
theorem Portrays.congr {s' : Session (Recorded S)} (h : s.Portrays size id content)
    (hc : s'.connection = s.connection) (hsent : s'.socket.sent = s.socket.sent) :
    s'.Portrays size id content := by
  have hbody : s'.bodySent = s.bodySent := by rw [bodySent, bodySent, hc, hsent]
  exact ⟨hc ▸ h.inStep, hc ▸ h.measures, by rw [hbody, hc]; exact h.body⟩

/-- What an open file holds goes with it. -/
theorem backing_of_file {site : Site} {c : Connection} (hfile : c.file = some id)
    (hcontent : site.tree.content? id = some content) : c.backing site = content := by
  rw [backing, hfile]
  dsimp only
  rw [contentOf, hcontent, Option.getD_some]

theorem portrays_handle (signal : Signal) (hsize : site.settings.chunkSize = size)
    (hpos : 0 < size) (hcontent : site.tree.content? id = some content)
    (hq : s.engine.waiting = []) (hs : s.OnWire next) (hn : next ≠ .close)
    (h : s.Portrays size id content) : (s.handle site signal).2.Portrays size id content := by
  -- The connection keeps step, and either the document stays open or it is opened only now.
  have hparts : (s.handle site signal).2.connection.InStep size ∧
      (s.handle site signal).2.connection.Measures id content ∧
      ((s.handle site signal).2.connection.file = s.connection.file ∨
        s.connection.file = none ∧ s.connection.body.offset = 0) := by
    cases signal with
    | readable hangup =>
      have hi := intake_readable site hangup s
      exact ⟨hi.inStep h.inStep, hi.measures h.measures, .inl hi.frame.2.2.1⟩
    | writable =>
      obtain ⟨w, ho⟩ := output_onWritable site s
      exact ⟨ho.inStep hsize hpos hs.inOrder h.inStep, ho.measures hcontent h.measures,
        ho.file_eq_or hs.inOrder⟩
  obtain ⟨hstep, hmeasures, hfile⟩ := hparts
  refine ⟨hstep, hmeasures, fun hid => ?_⟩
  obtain ⟨more, -, hbody, hmore, -⟩ := bodySent_handle site signal hq hs hn
  rw [hbody]
  rcases hfile with hsame | ⟨hnone, hzero⟩
  · -- What is added stands in the file behind what was there.
    have hopen : s.connection.file = some id := hsame.symm.trans hid
    obtain ⟨rest, hrest⟩ := h.body hopen
    rw [backing_of_file hopen hcontent, ← hrest, List.drop_left] at hmore
    rw [← hrest]
    exact (List.prefix_append_right_inj _).2 hmore
  · -- No document was open, so nothing of a body is out.
    have hlen : s.bodySent.length = s.connection.body.offset :=
      hs.counted.resolve_right fun h => hn h.1
    have hbacking : s.connection.backing site = [] := by rw [backing, hnone]
    rw [hbacking, List.drop_nil, List.prefix_nil] at hmore
    rw [hmore, List.append_nil, List.eq_nil_of_length_eq_zero (hlen.trans hzero)]
    exact List.nil_prefix

/-- Whether a call finds chunks to be moved. -/
def findsChunks (s : Session S) (signal : Signal) : Bool :=
  signal == .writable && s.connection.phase == .movingChunks

/-- A call that finds chunks makes one attempt, and no other call makes any. -/
theorem length_attempt? (hc : s.connection.InOrder) (signal : Signal) :
    (s.attempt? site signal).toList.length = (s.findsChunks signal).toNat := by
  cases signal with
  | readable hangup => rfl
  | writable =>
    rw [attempt?]
    by_cases hp : s.connection.phase = .movingChunks
    · rw [InOrder, hp] at hc
      obtain ⟨id, hfile⟩ := Option.isSome_iff_exists.1 hc.2.2.2.1
      have hfinds : s.findsChunks .writable = true := by simp [findsChunks, hp]
      rw [if_pos hp, hfile, hfinds]
      rfl
    · have hfinds : s.findsChunks .writable = false := by simp [findsChunks, hp]
      rw [if_neg hp, hfinds]
      rfl

/-- The next call moves the piece of the file with this number. -/
structure MovesTile (site : Site) (content : Bytes) (number : Nat) (s : Session (Recorded S)) :
    Prop where
  next : (s.onWritable site).1 = .write
  /-- It goes from the end of the piece before to its own, or to that of the file. -/
  sent : (s.onWritable site).2.socket.sent = s.socket.sent ++
    (content.take (min (number * site.settings.chunkSize) content.length)).drop
      ((number - 1) * site.settings.chunkSize)
  chunks : (s.onWritable site).2.connection.chunks = number
  body : (s.onWritable site).2.connection.body =
    ⟨min (number * site.settings.chunkSize) content.length,
      content.length - min (number * site.settings.chunkSize) content.length⟩
  submitted : (s.onWritable site).2.engine.submitted = s.engine.submitted + 2
  completed : (s.onWritable site).2.engine.completed = s.engine.completed + 2
  /-- The piece that ends the file is the last one. -/
  phase : (s.onWritable site).2.connection.phase =
    if number = content.length ⌈/⌉ site.settings.chunkSize then .dataSent else .movingChunks
  /-- What was left in the buffer does not matter. -/
  fresh : ∀ stale,
    ((s.restale stale).onWritable site).2.socket = (s.onWritable site).2.socket

/-- Where the position is in step, a chunk that is moved is the next piece. -/
theorem Portrays.movesTile (h : s.Portrays site.settings.chunkSize id content)
    (hpos : 0 < site.settings.chunkSize) (hcontent : site.tree.content? id = some content)
    (hq : s.engine.waiting = []) (hc : s.connection.InOrder)
    (hp : s.connection.phase = .movingChunks) (hfile : s.connection.file = some id)
    (hmoved : ∀ a ∈ s.attempt? site .writable, a.moved = true) :
    s.MovesTile site content (s.connection.chunks + 1) := by
  obtain ⟨hwrite, ⟨chunk, hconn⟩, hsent, tags, hengine⟩ := movesChunk_of_moved hq hc hp hmoved
  have hoff := h.inStep.moving hp
  have hbacking := backing_of_file hfile hcontent
  have hmeasures := h.measures (by rw [hp]; rfl) hfile
  rw [InOrder, hp] at hc
  obtain ⟨ha, hstatus, -, -, -, hrem⟩ := hc
  have hlen := ha.length
  rw [hmeasures hstatus] at hlen
  have hnext : (s.connection.chunks + 1) * site.settings.chunkSize =
      s.connection.chunks * site.settings.chunkSize + site.settings.chunkSize := Nat.succ_mul _ _
  have hlast := add_one_eq_ceilDiv_iff (n := content.length) (k := s.connection.chunks) hpos
    (by omega)
  constructor
  case next => exact hwrite
  case sent =>
    rw [hsent, hbacking, Nat.add_sub_cancel, List.drop_take, FileBody.slice, hoff, chunkLength]
    congr 2
    omega
  case chunks =>
    rw [hconn]
    rfl
  case body =>
    rw [hconn]
    show s.connection.body.advance _ = _
    rw [FileBody.advance, chunkLength]
    congr 1 <;> omega
  case submitted =>
    rw [hengine]
    rfl
  case completed =>
    rw [hengine]
    rfl
  case phase =>
    -- Nothing remains just if this is the last piece.
    rw [hconn]
    show (if s.connection.body.remaining - s.connection.chunkLength site = 0 then Phase.dataSent
      else s.connection.phase) = _
    rw [hp, chunkLength]
    refine if_congr ?_ rfl rfl
    rw [hlast]
    omega
  case fresh =>
    -- The read filled the chunk, so what is written is what it read.
    intro stale
    have hgives := gives_of_moved (hmoved _ (attempt?_of_file hp hfile))
    have hcall : ∀ t : Session (Recorded S), t.connection.phase = .movingChunks →
        (t.onWritable site).2.socket = (t.sendChunk site).2.socket := by
      intro t ht
      rw [onWritable, finish_socket, writable, ht]
    rw [hcall _ hp, hcall (s.restale stale) hp]
    exact sendChunk_restale hq hfile hgives stale

/-- Over a socket that takes everything, a file that stays the same is moved on, where one request
    can move a chunk. -/
theorem Portrays.goes_on (hs : TakesAll S) (h : s.Portrays size id content)
    (hsize : site.settings.chunkSize ≤ FileBody.transferLimit)
    (hcontent : site.tree.content? id = some content) (hmax : content.length ≤ FileTree.maxSize)
    (hq : s.engine.waiting = []) (hc : s.connection.InOrder)
    (hp : s.connection.phase = .movingChunks) (hfile : s.connection.file = some id) :
    (s.onWritable site).1 = .write := by
  have hmeasures := h.measures (by rw [hp]; rfl) hfile
  rw [InOrder, hp] at hc
  obtain ⟨ha, hstatus, -⟩ := hc
  have hfits : s.connection.body.offset + s.connection.chunkLength site ≤ content.length := by
    have hlen := ha.length
    rw [hmeasures hstatus] at hlen
    rw [chunkLength]
    omega
  have hgranted : s.connection.chunkLength site ≤ FileBody.transferLimit :=
    Nat.le_trans (Nat.min_le_left _ _) hsize
  -- The read fills the chunk, and the socket takes all of it.
  have hgives : (s.reading site id).gives (s.connection.chunkLength site) :=
    Errand.gives_iff.2 ((Engine.result_readAt hq hcontent hfits hmax).trans
      (congrArg Except.ok (FileBody.granted_of_le hgranted)))
  have hfull : ((s.afterRead site id).connection.chunk.toBytes.take
      (s.connection.chunkLength site)).length = s.connection.chunkLength site := by
    rw [take_chunk_afterRead hq hgives, FileBody.length_slice, contentOf, hcontent,
      Option.getD_some]
    omega
  rw [onWritable, finish_fst, writable, hp]
  dsimp only
  rw [sendChunk_of_filled hfile hgives,
    writeChunk_fst hs.recorded (Engine.waiting_runOne hq) hfull hgranted]
  rfl

end Session

/-! ### Runs in which nothing fails -/

namespace World

/-- A file stays as it is, and so does the size of chunks. Nobody else puts bytes on the socket,
    and no completion of another request waits in the engine, where no handler leaves one
    (`Session.waiting_handle`). -/
def keeping (S : Type) (size : Nat) (id : FileId) (content : Bytes) : World (Recorded S) where
  begins b := b.sent = []
  drifts b b' := b'.sent = b.sent
  engines e := e.waiting = []
  sites site := site.settings.chunkSize = size ∧ site.tree.content? id = some content

section

variable [Socket S]

/-- What comes after the connection was accepted, if no request for a chunk fails or falls short,
    with how many of the calls found chunks to be moved. -/
inductive Unbroken (world : World S) : Nat → Next × Session S → Prop
  | new {token : UInt64} {peer : String} {socket : S} {engine : Engine} {notes : List Note} :
    world.begins socket →
      Unbroken world 0 (.read, ⟨{ token := token, peer := peer }, socket, engine, notes⟩)
  | call {count : Nat} {next : Next} {s s' : Session S} {site : Site} (signal : Signal) :
    Unbroken world count (next, s) → next ≠ .close → world.Elapses s s' → world.sites site →
      (∀ a ∈ s'.attempt? site signal, a.moved = true) →
        Unbroken world (count + (s'.findsChunks signal).toNat) (s'.handle site signal)

end

variable [Socket S] {size : Nat} {id : FileId} {content : Bytes} {next : Next} {count : Nat}
  {s : Session (Recorded S)}

theorem Reached.onWire_of_keeping (h : (keeping S size id content).Reached (next, s)) :
    s.OnWire next := by
  refine h.induction (motive := fun next s => s.OnWire next) ?_ ?_
  · intro token peer socket engine notes hb
    exact Session.onWire_new hb
  · intro next s s' site signal _ hn he _ hs
    exact Session.onWire_handle site signal he.engine (hs.congr he.connection he.socket) hn

theorem Reached.portrays (hpos : 0 < size) (h : (keeping S size id content).Reached (next, s)) :
    s.Portrays size id content := by
  refine h.induction (motive := fun _ s => s.Portrays size id content) ?_ ?_
  · intro token peer socket engine notes hb
    exact ⟨.of_phase nofun nofun nofun, nofun, nofun⟩
  · intro next s s' site signal hreached hn he hsite hs
    exact Session.portrays_handle signal hsite.1 hpos hsite.2 he.engine
      (hreached.onWire_of_keeping.congr he.connection he.socket) hn
      (hs.congr he.connection he.socket)

theorem Unbroken.reached {world : World S} {m : Next × Session S} (h : world.Unbroken count m) :
    world.Reached m := by
  induction h with
  | new hb => exact .new hb
  | call signal _ hn he hs _ ih => exact ih.call signal hn he hs

/-- A call after which the connection is not to be closed broke nothing. -/
theorem Unbroken.go_on {s' : Session (Recorded S)} {site : Site} (signal : Signal)
    (h : (keeping S size id content).Unbroken count (next, s)) (hn : next ≠ .close)
    (he : (keeping S size id content).Elapses s s')
    (hsite : (keeping S size id content).sites site)
    (hgo : (s'.handle site signal).1 ≠ .close) : (keeping S size id content).Unbroken
      (count + (s'.findsChunks signal).toNat) (s'.handle site signal) :=
  h.call signal hn he hsite (Session.moved_of_ne_close he.engine hgo)

/-- Every chunk that was found is counted. -/
theorem Unbroken.chunks_eq {m : Next × Session (Recorded S)}
    (h : (keeping S size id content).Unbroken count m) : m.2.connection.chunks = count := by
  induction h with
  | new => rfl
  | @call count next s s' site signal h hn he hs hmoved ih =>
    have hc : s'.connection.InOrder := he.connection ▸ h.reached.inOrder
    have hattempted := Session.attempted_handle site signal he.engine
    have hall : (s'.attempt? site signal).toList.countP Attempt.moved =
        (s'.attempt? site signal).toList.length :=
      List.countP_eq_length.2 fun a ha => hmoved a (Option.mem_toList.1 ha)
    rw [hattempted.chunks, hall, Session.length_attempt? hc, he.connection, ih]

/-- A document that was sent completely is on the socket behind its header. -/
theorem Reached.sent_eq (hpos : 0 < size) (h : (keeping S size id content).Reached (next, s))
    (hp : s.connection.phase = .dataSent) (hfile : s.connection.file = some id) :
    s.socket.sent = (ResponseHeader.mk .ok content.length).toBytes ++ content := by
  have hwire := h.onWire_of_keeping
  have hportrays := h.portrays hpos
  have hstate := hwire.honestState
  have hfinal : s.connection.phase.isFinal := by rw [hp]; rfl
  have hc := hwire.inOrder
  rw [Connection.InOrder, hp] at hc
  obtain ⟨hcomplete, hstatus, -⟩ := hc
  have hlength := hportrays.measures (by rw [hp]; rfl) hfile hstatus
  have hbody : s.bodySent = content :=
    (hportrays.body hfile).eq_of_length ((hstate.complete hfinal).trans hlength)
  have hheader : s.connection.header.content.take s.connection.header.written =
      s.connection.header.content :=
    List.take_of_length_le (Nat.le_of_sub_eq_zero hcomplete.header_out)
  rw [hstate.wire.sent_eq, hheader, hcomplete.header, hstatus, hlength, hbody]

/-- While a file stays as it is and nothing fails, the calls that find chunks take it apart into
    consecutive pieces, one after the other. A document that was sent completely is on the socket
    as it is, whatever the size of the chunks was, and whether there were any. -/
theorem Unbroken.tiles (hpos : 0 < size)
    (h : (keeping S size id content).Unbroken count (next, s)) :
    (∀ {s' : Session (Recorded S)} {site : Site}, next ≠ .close →
      (keeping S size id content).Elapses s s' → (keeping S size id content).sites site →
      s'.connection.phase = .movingChunks → s'.connection.file = some id →
      (∀ a ∈ s'.attempt? site .writable, a.moved = true) →
        s'.MovesTile site content (count + 1)) ∧
    (s.connection.phase = .dataSent → s.connection.file = some id →
      s.socket.sent = (ResponseHeader.mk .ok content.length).toBytes ++ content ∧
      (s.connection.resource = .dynamic → count = content.length ⌈/⌉ size) ∧
      ∀ {S' : Type} [Socket S'] {size' : Nat} {id' : FileId} {count' : Nat} {next' : Next}
        {t : Session (Recorded S')}, 0 < size' →
        (keeping S' size' id' content).Unbroken count' (next', t) →
        t.connection.phase = .dataSent → t.connection.file = some id' →
          t.socket.sent = s.socket.sent) := by
  have hreached := h.reached
  have hportrays := hreached.portrays hpos
  have hcount : s.connection.chunks = count := h.chunks_eq
  refine ⟨fun {s' site} _ he hsite hp hfile hmoved => ?_, fun hp hfile => ⟨?_, fun hres => ?_, ?_⟩⟩
  · -- The next call moves the next piece.
    obtain ⟨hsize, hcontent⟩ := hsite
    subst hsize
    have htile := (hportrays.congr he.connection he.socket).movesTile hpos hcontent he.engine
      (he.connection ▸ hreached.inOrder) hp hfile hmoved
    rwa [he.connection, hcount] at htile
  · exact hreached.sent_eq hpos hp hfile
  · -- The pieces are as many as the file has.
    have hlength := hportrays.measures (by rw [hp]; rfl) hfile (by
      have hc := hreached.inOrder
      rw [Connection.InOrder, hp] at hc
      exact hc.2.1)
    rw [← hcount, hportrays.inStep.sent hp hres, hlength]
  · -- Whatever the chunks were, the same is sent.
    intro S' _ size' id' count' next' t hpos' h' hp' hfile'
    rw [h'.reached.sent_eq hpos' hp' hfile', hreached.sent_eq hpos hp hfile]

end World

/-! ### A document of two bytes in chunks of one -/

namespace Tiled

/-- The request is there. -/
def arrived : Next × Session (Recorded (Fed Portioned)) :=
  (Portioned.offered [41]).handle Chunked.site (.readable false)

theorem arrived_eq : arrived = (.write, (((Portioned.offered [41]).enter .receiving).append
    ⟨⟨⟨[]⟩, [120], 1⟩, []⟩ Escaped.request).enter .requestReceived) := by
  show Session.finish (Session.receive 8192 ((Portioned.offered [41]).enter .receiving)) = _
  rw [Session.receive]
  rfl

/-- The document is open. -/
def opened : Next × Session (Recorded (Fed Portioned)) := arrived.2.handle Chunked.site .writable

theorem opened_connection : opened.2.connection = { arrived.2.connection with
    resource := .dynamic
    path := some "/static/sub/a"
    file := some 0
    phase := .sendingHeader } := by
  have hread : RequestHead.read arrived.2.connection.received =
      .ok (⟨"GET", "/static/sub/a", 0⟩, arrived.2.connection.received.length) := by
    rw [arrived_eq]
    exact Escaped.read_request
  have hresolve : Folders.resolve Chunked.site.settings.documentRoot "/static/sub/a" =
      some "./static/sub/a" := Escaped.resolve_path
  have hres : Chunked.site.settings.folders.classify "/static/sub/a" = .dynamic :=
    Chunked.classify_path 1
  have hopen : Chunked.site.tree.openRegular "./static/sub/a" = .ok 0 := Escaped.openRegular_tree _
  have hphase : arrived.2.connection.phase = .requestReceived := by rw [arrived_eq]; rfl
  rw [opened, Session.handle, Session.onWritable, Session.finish_connection, Session.writable,
    hphase]
  dsimp only
  rw [Session.processRequest, hread]
  simp only [if_pos, Session.serve, Session.openDocument, hres, Session.note_connection,
    Session.update_connection, hresolve, hopen]
  rfl

theorem opened_frame : opened.1 = .write ∧ opened.2.engine = {} ∧
    opened.2.socket = ⟨⟨⟨[]⟩, [120], 1⟩, []⟩ := by
  have hphase : arrived.2.connection.phase = .requestReceived := by rw [arrived_eq]; rfl
  obtain ⟨hsocket, hengine⟩ := Session.processRequest_frame Chunked.site arrived.2
  rw [opened, Session.handle, Session.onWritable, Session.finish_fst, Session.finish_engine,
    Session.finish_socket, Session.writable, hphase]
  dsimp only
  rw [hsocket, hengine, arrived_eq]
  exact ⟨rfl, rfl, rfl⟩

/-- The document is announced. -/
def announced : Next × Session (Recorded (Fed Portioned)) := opened.2.handle Chunked.site .writable

theorem announced_eq : announced = (.write, (opened.2.update fun c =>
    { c with status := .ok }).startBody ⟨.ok, 2⟩) := by
  rw [announced, Session.handle, Session.onWritable, Session.writable, opened_connection]
  dsimp only
  have hlen : opened.2.documentLength Chunked.site = .ok 2 := by
    rw [Session.documentLength, opened_connection]
    rfl
  rw [Session.prepareHeader, hlen]
  rfl

theorem announced_document : announced.2.connection.file = some 0 ∧
    announced.2.connection.resource = .dynamic := by
  have hfile : opened.2.connection.file = some 0 := by rw [opened_connection]
  have hres : opened.2.connection.resource = .dynamic := by rw [opened_connection]
  rw [announced_eq]
  exact ⟨hfile, hres⟩

/-- The header is out, and it is the turn of the chunks. -/
def turned : Next × Session (Recorded (Fed Portioned)) := announced.2.handle Chunked.site .writable

/-- The header of the announcement. -/
def header : SendBuffer := ⟨(ResponseHeader.mk .ok 2).toBytes, 0⟩

/-- The socket with all of the header. -/
def filled : Recorded (Fed Portioned) := ⟨⟨⟨[]⟩, [120], 1⟩, header.content⟩

theorem turned_eq : turned = (.write, ({ announced.2 with socket := filled }.update fun c =>
    { c with header := header.advance header.remaining }).enter .movingChunks) := by
  obtain ⟨hfile, hres⟩ := announced_document
  have hphase : announced.2.connection.phase = .sendingData := by rw [announced_eq]; rfl
  have hstatus : announced.2.connection.status = .ok := by rw [announced_eq]; rfl
  have hbody : announced.2.connection.body = ⟨0, 2⟩ := by rw [announced_eq]; rfl
  have hheader : announced.2.connection.header = header := by rw [announced_eq]; rfl
  have hsocket : announced.2.socket = ⟨⟨⟨[]⟩, [120], 1⟩, []⟩ := by
    rw [announced_eq]
    exact opened_frame.2.2
  have hsend : Sink.send announced.2.socket header.rest = (.took header.remaining, filled) := by
    rw [hsocket]
    rfl
  have hflush := SendBuffer.flush_of_took hsend (by decide)
  rw [turned, Session.handle, Session.onWritable, Session.writable, hphase]
  dsimp only
  rw [Session.sendData, hheader, hflush]
  dsimp only
  rw [Session.afterHeader]
  simp only [Session.update_connection, hfile, hbody, Session.isDirect, hres, hstatus]
  rfl

theorem turned_connection : turned.2.connection.phase = .movingChunks ∧
    turned.2.connection.file = some 0 := by
  rw [turned_eq]
  exact ⟨rfl, announced_document.1⟩

/-- The document stays as it is. -/
abbrev world : World (Recorded (Fed Portioned)) := .keeping (Fed Portioned) 1 0 [104, 105]

theorem sites_site : world.sites Chunked.site := ⟨rfl, rfl⟩

/-- Nothing is done between two calls. -/
theorem elapses {s : Session (Recorded (Fed Portioned))} (hq : s.engine.waiting = []) :
    world.Elapses s s :=
  ⟨rfl, rfl, hq⟩

/-- A call of writability that finds no chunks goes on. -/
theorem unbroken_onWritable {m : Next × Session (Recorded (Fed Portioned))}
    (h : world.Unbroken 0 m) (hq : m.2.engine.waiting = []) (hn : m.1 = .write)
    (hp : m.2.connection.phase ≠ .movingChunks)
    (hgo : (m.2.handle Chunked.site .writable).1 = .write) :
    world.Unbroken 0 (m.2.handle Chunked.site .writable) := by
  have hfinds : m.2.findsChunks .writable = false := by simp [Session.findsChunks, hp]
  have hcall := World.Unbroken.go_on .writable h (by rw [hn]; decide) (elapses hq) sites_site
    (by rw [hgo]; decide)
  rwa [hfinds] at hcall

/-- Before chunks are moved, none is counted. -/
theorem unbroken_turned : world.Unbroken 0 (turned.1, turned.2) := by
  have hnew : world.Unbroken 0 (.read, Portioned.offered [41]) := .new rfl
  have harrived : world.Unbroken 0 arrived := by
    refine World.Unbroken.go_on (.readable false) hnew (by decide) (elapses rfl) sites_site ?_
    rw [← arrived, arrived_eq]
    decide
  have hopened : world.Unbroken 0 opened := by
    refine unbroken_onWritable harrived ?_ ?_ ?_ opened_frame.1
    · rw [arrived_eq]
      rfl
    · rw [arrived_eq]
    · rw [arrived_eq]
      decide
  have hannounced : world.Unbroken 0 announced := by
    refine unbroken_onWritable hopened ?_ opened_frame.1 ?_ (by rw [← announced, announced_eq])
    · rw [opened_frame.2.1]
    · rw [opened_connection]
      decide
  refine unbroken_onWritable hannounced ?_ (by rw [announced_eq]) ?_ (by rw [← turned, turned_eq])
  · rw [announced_eq]
    exact congrArg Engine.waiting opened_frame.2.1
  · rw [announced_eq]
    decide

theorem waiting_turned : turned.2.engine.waiting = [] := by
  rw [turned_eq, announced_eq]
  exact congrArg Engine.waiting opened_frame.2.1

/-- A call of writability that finds chunks goes on too. -/
theorem goes_on {count : Nat} {m : Next × Session (Recorded (Fed Portioned))}
    (h : world.Unbroken count m) (hq : m.2.engine.waiting = [])
    (hp : m.2.connection.phase = .movingChunks) (hfile : m.2.connection.file = some 0) :
    (m.2.handle Chunked.site .writable).1 = .write :=
  (h.reached.portrays Nat.one_pos).goes_on Portioned.takesAll.fed (by decide) sites_site.2
    (by decide) hq h.reached.inOrder hp hfile

/-- It is counted, and the document stays open. -/
theorem unbroken_chunk {count : Nat} {m : Next × Session (Recorded (Fed Portioned))}
    (h : world.Unbroken count m) (hn : m.1 = .write) (hq : m.2.engine.waiting = [])
    (hp : m.2.connection.phase = .movingChunks) (hfile : m.2.connection.file = some 0) :
    world.Unbroken (count + 1) (m.2.handle Chunked.site .writable) ∧
      (m.2.handle Chunked.site .writable).2.connection.file = some 0 := by
  have hfinds : m.2.findsChunks .writable = true := by simp [Session.findsChunks, hp]
  have hcall := World.Unbroken.go_on .writable h (by rw [hn]; decide) (elapses hq) sites_site
    (by rw [goes_on h hq hp hfile]; decide)
  rw [hfinds] at hcall
  refine ⟨hcall, ?_⟩
  obtain ⟨w, ho⟩ := Session.output_onWritable Chunked.site m.2
  rcases ho.file_eq_or h.reached.inOrder with hsame | ⟨hnone, -⟩
  · exact hsame.trans hfile
  · cases hfile.symm.trans hnone

/-- The first chunk is moved. -/
def first : Next × Session (Recorded (Fed Portioned)) := turned.2.handle Chunked.site .writable

/-- The second one is. -/
def second : Next × Session (Recorded (Fed Portioned)) := first.2.handle Chunked.site .writable

end Tiled

/-- A document of two bytes takes two chunks of one byte. -/
theorem World.Unbroken.tiles_bytes : Tiled.world.Unbroken 1 Tiled.first ∧
    Tiled.first.2.MovesTile Chunked.site [104, 105] 2 ∧
    Tiled.world.Unbroken 2 Tiled.second ∧ Tiled.second.2.connection.phase = .dataSent ∧
    Tiled.second.2.socket.sent = (ResponseHeader.mk .ok 2).toBytes ++ [104, 105] := by
  obtain ⟨hphase, hfile⟩ := Tiled.turned_connection
  have hturned : Tiled.turned.1 = .write := by rw [Tiled.turned_eq]
  -- The first chunk, in the call behind the header.
  have hfirst : Tiled.first.1 = .write :=
    Tiled.goes_on Tiled.unbroken_turned Tiled.waiting_turned hphase hfile
  have htile : Tiled.turned.2.MovesTile Chunked.site [104, 105] 1 :=
    (tiles Nat.one_pos Tiled.unbroken_turned).1 (by rw [hturned]; decide)
      (Tiled.elapses Tiled.waiting_turned) Tiled.sites_site hphase hfile
      (Session.moved_of_ne_close Tiled.waiting_turned (by rw [← Tiled.first, hfirst]; decide))
  obtain ⟨hunbroken, hfile'⟩ : Tiled.world.Unbroken 1 (Tiled.first.1, Tiled.first.2) ∧
      Tiled.first.2.connection.file = some 0 :=
    Tiled.unbroken_chunk Tiled.unbroken_turned hturned Tiled.waiting_turned hphase hfile
  -- The second one, with which the document ends.
  have hphase' : Tiled.first.2.connection.phase = .movingChunks := htile.phase
  have hwaiting : Tiled.first.2.engine.waiting = [] :=
    Session.waiting_handle Chunked.site .writable Tiled.waiting_turned
  have hsecond : Tiled.second.1 = .write := Tiled.goes_on hunbroken hwaiting hphase' hfile'
  have htile' : Tiled.first.2.MovesTile Chunked.site [104, 105] 2 :=
    (tiles Nat.one_pos hunbroken).1 (by rw [hfirst]; decide)
      (Tiled.elapses hwaiting) Tiled.sites_site hphase' hfile'
      (Session.moved_of_ne_close hwaiting (by rw [← Tiled.second, hsecond]; decide))
  obtain ⟨hunbroken', hfile''⟩ : Tiled.world.Unbroken 2 (Tiled.second.1, Tiled.second.2) ∧
      Tiled.second.2.connection.file = some 0 :=
    Tiled.unbroken_chunk hunbroken hfirst hwaiting hphase' hfile'
  have hphase'' : Tiled.second.2.connection.phase = .dataSent := htile'.phase
  exact ⟨hunbroken, htile', hunbroken', hphase'',
    ((tiles Nat.one_pos hunbroken').2 hphase'' hfile'').1⟩

end FileServer
