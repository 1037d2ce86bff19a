import FileServer.Proofs.Connection.Answered
import FileServer.Proofs.Connection.Phases
import FileServer.Proofs.FileTree
import FileServer.Proofs.Settings
import FileServer.Proofs.Socket.Fed

/-!
# Calls that go on with an answer

Every call that wants to write on gets on with the answer: it leads to a later phase, sends a part
of what is left, or moves a chunk (`Connection.Output.advances`).

Where the socket takes everything, each call does want to write on (`Session.write_of_takesAll`).
This needs files that a system can hold (`FileTree.Sound`): a document that was found can be
measured and carried to its end. And it needs chunks that a single request can move. A longer one
is read in part, and the connection is to be closed (`Session.close_of_overlong`).

`Session.EndsIn` says that writability alone brings a connection to be closed.
-/

namespace FileServer

variable {S : Type}

/-! ### Sockets that take everything -/

/-- The sockets of a type take all that they are offered. -/
structure TakesAll (S : Type) [Sink S] : Prop where
  send : ∀ (s : S) (bs : Bytes), (Sink.send s bs).1 = .took bs.length
  fault : ∀ s : S, Sink.fault s = none

namespace TakesAll

variable [Sink S] (h : TakesAll S)

include h

/-- To keep a record of what is taken takes nothing away from that. -/
theorem recorded : TakesAll (Recorded S) where
  send s := h.send s.inner
  fault s := h.fault s.inner

/-- A header goes out at once. -/
theorem flush (b : SendBuffer) (s : S) :
    ∃ s', b.flush s = (.ok .done, b.advance b.remaining, s') := by
  rcases Nat.eq_zero_or_pos b.remaining with hzero | hpos
  · rw [SendBuffer.flush_of_done s hzero, hzero]
    exact ⟨s, rfl⟩
  · have hsend : Sink.send s b.rest = (.took b.remaining, (Sink.send s b.rest).2) := by
      rw [← SendBuffer.length_rest, ← h.send s b.rest]
    exact ⟨_, SendBuffer.flush_of_took hsend hpos⟩

/-- So does a body that the file holds. -/
theorem run {file : Bytes} {body : FileBody} (hlen : body.offset + body.remaining ≤ file.length)
    (hsize : file.length ≤ FileTree.maxSize) (s : S) :
    ∃ s', FileBody.run file body s = (.ok .done, body.advance body.remaining, s') := by
  rcases Nat.eq_zero_or_pos body.remaining with hzero | hpos
  · rw [FileBody.run_of_done s hzero, hzero]
    exact ⟨s, rfl⟩
  · have hlimit : FileTree.maxSize < FileBody.requestLimit := by decide
    have hpart : (FileBody.slice file body.offset body.remaining).length = body.remaining := by
      rw [FileBody.length_slice]
      omega
    have hstep : FileBody.step s file body.offset (min body.remaining FileBody.requestLimit) =
        (.took body.remaining, (Sink.send s
          (FileBody.slice file body.offset body.remaining)).2) := by
      rw [Nat.min_eq_left (by omega), FileBody.step_of_held (h.fault s) hpos hlen hsize]
      exact Prod.ext ((h.send s _).trans (congrArg Sending.took hpart)) rfl
    exact ⟨_, FileBody.run_of_took hstep hpos⟩

/-- So does what is written through an engine in which nothing waits. -/
theorem writeFrom {e : Engine} (he : e.waiting = []) (s : S) {bs : Bytes}
    (hbs : bs.length ≤ FileBody.transferLimit) : (e.writeFrom s bs).result = .ok bs.length := by
  rw [Engine.writeFrom, Engine.result_runOne he, writeSocket, h.fault, List.take_of_length_le hbs]
  dsimp only
  rw [h.send]
  rfl

end TakesAll

theorem Portioned.takesAll : TakesAll Portioned := ⟨fun _ _ => rfl, fun _ => rfl⟩

/-! ### Files that a system can hold -/

/-- A document that was found has a content. -/
theorem Site.exists_content_of_document {site : Site} (ht : site.tree.Sound) {request : Bytes}
    {id : FileId} (h : site.document? request = some id) :
    ∃ content, site.tree.content? id = some content := by
  rw [document?] at h
  split at h
  · cases h
  rename_i head n hread
  split at h
  · obtain ⟨file, -, hfile⟩ := Option.bind_eq_some_iff.1 h
    exact ht.exists_content (eq_ok_of_toOption hfile)
  · cases h

/-- No open file is larger than a file may be. -/
theorem FileTree.Sound.length_contentOf_le {site : Site} (ht : site.tree.Sound) (id : FileId) :
    (Session.contentOf site id).length ≤ FileTree.maxSize := by
  rw [Session.contentOf]
  cases hcontent : site.tree.content? id with
  | none => exact Nat.zero_le _
  | some content => exact ht.size_le id content hcontent

/-! ### What each call does -/

/-- How many bytes of the header and of the body are still to go out. -/
def Connection.left (c : Connection) : Nat := c.header.remaining + c.body.remaining

/-- How a call that wants to write on gets on, with the bytes that go out. -/
inductive Connection.Advances (site : Site) (c : Connection) (w : Bytes) (c' : Connection) : Prop
  /-- It leads to a later phase. -/
  | forward : c.phase.rank < c'.phase.rank → Advances site c w c'
  /-- What goes out is taken off what is left. -/
  | sends : c.phase = .sendingData → c'.phase = .sendingData → c'.left + w.length = c.left →
      Advances site c w c'
  /-- A chunk is moved, and it is not empty. -/
  | moves : c.phase = .movingChunks → c'.phase = .movingChunks → 0 < c.chunkLength site →
      c'.body.remaining + c.chunkLength site = c.body.remaining → Advances site c w c'

theorem Connection.Advances.of_edge {site : Site} {w : Bytes} {c c' : Connection} {p q : Phase}
    (he : Phase.Edge p q) (hp : c.phase = p) (hq : c'.phase = q) : Advances site c w c' :=
  .forward (by rw [hp, hq]; exact he.rank_lt)

/-- To go on is to get on. -/
theorem Connection.Output.advances {site : Site} {quiet : Prop} {w : Bytes} {c c' : Connection}
    (h : Output site quiet c .write w c') (hc : c.InOrder) (hchunk : site.settings.chunkSize ≠ 0) :
    Advances site c w c' := by
  cases h with
  | finds hp => exact .of_edge .find hp rfl
  | misses _ _ hp => exact .of_edge .miss hp rfl
  | announcesPage hp | announcesNothing hp => exact .of_edge .announcePage hp rfl
  | announcesDocument hp | announcesNoDocument hp => exact .of_edge .announceDocument hp rfl
  | sendsHeaderPart hp hk =>
    -- Less of the header is left.
    refine .sends hp hp ?_
    simp only [left, passHeader, SendBuffer.remaining_advance, List.length_take,
      SendBuffer.length_rest]
    omega
  | sendsHeader hp | sendsBody hp =>
    exact .forward (by rw [hp]; exact (Session.edge_finalPhase _).rank_lt)
  | sendsBodyPart hp hd hk hlen =>
    -- The header is out, and less of the body is left.
    refine .sends hp hp ?_
    simp only [left, passBody, passHeader, SendBuffer.remaining_advance,
      FileBody.remaining_advance, List.length_append, SendBuffer.length_rest, hlen]
    omega
  | turnsToChunks hp => exact .of_edge .turnToChunks hp rfl
  | movesChunk chunk hp =>
    rw [InOrder, hp] at hc
    have hle : c.chunkLength site ≤ c.body.remaining := Nat.min_le_right _ _
    have hcount : 0 < c.chunkLength site := by
      rw [chunkLength]
      omega
    by_cases hz : c.body.remaining - c.chunkLength site = 0
    · exact .of_edge .endChunks hp (if_pos hz)
    · exact .moves hp ((if_neg hz).trans hp) hcount (Nat.sub_add_cancel hle)
  | movesNothing hp hfile => exact absurd hfile (hc.file_ne_none (.inr hp))

theorem FileBody.granted_of_le {n : Nat} (h : n ≤ transferLimit) : granted n = n :=
  Nat.min_eq_left h

/-- A file that reaches over a range can be read there, as far as one request goes. -/
theorem Engine.result_readAt {e : Engine} (he : e.waiting = []) {t : FileTree} {r : FileRange}
    {buffer : LazyBytes} {content : Bytes} (hcontent : t.content? r.file = some content)
    (hlen : r.offset + r.length ≤ content.length) (hsize : content.length ≤ FileTree.maxSize) :
    (e.readAt t r buffer).result = .ok (FileBody.granted r.length) := by
  have hlimit : FileTree.maxSize < FileBody.positionLimit := by decide
  obtain ⟨stored, hstored, rfl⟩ := FileTree.content?_eq_some.1 hcontent
  rw [LazyBytes.length_toBytes] at hlen hsize
  have hgranted : FileBody.granted r.length ≤ r.length := Nat.min_le_left _ _
  rw [readAt, result_runOne he, readFile, hstored]
  dsimp only
  rw [if_neg (by omega), Verdict.result, LazyBytes.slice]
  exact congrArg Except.ok (Nat.min_eq_left (by omega))

namespace Session

open Connection

section

variable {site : Site} {s : Session S}

/-- The length of a document that was found can be told. -/
theorem prepareHeader_fst (ht : site.tree.Sound) (hp : s.connection.phase = .sendingHeader)
    (hc : s.connection.InOrder) (hf : s.connection.Faithful site) :
    (s.prepareHeader site).1 = .ok .write := by
  rw [InOrder, hp] at hc
  obtain ⟨id, hfile⟩ := Option.isSome_iff_exists.1 hc.2.1
  obtain ⟨content, hcontent⟩ :=
    Site.exists_content_of_document ht ((hf.serves hp).trans hfile)
  rw [prepareHeader, documentLength, hfile]
  simp only [FileTree.size_eq, hcontent]

/-- The file holds all that was announced and is still to go out. -/
theorem offset_add_remaining_eq (hp : s.connection.phase.isAnnounced) (hc : s.connection.InOrder)
    (hf : s.connection.Faithful site) {id : FileId} (hfile : s.connection.file = some id) :
    s.connection.body.offset + s.connection.body.remaining = (contentOf site id).length := by
  have hback := hf.backing hp
  rw [backing, hfile] at hback
  rw [(hc.announced hp).length, hf.length hp, ← hback]

/-- A file of which something is still to go out has a content. -/
theorem exists_content_of_remaining (hp : s.connection.phase.isAnnounced)
    (hc : s.connection.InOrder) (hf : s.connection.Faithful site) {id : FileId}
    (hfile : s.connection.file = some id) (hrem : 0 < s.connection.body.remaining) :
    ∃ content, site.tree.content? id = some content ∧
      s.connection.body.offset + s.connection.body.remaining = content.length := by
  have hlen := offset_add_remaining_eq hp hc hf hfile
  rw [contentOf] at hlen
  cases hcontent : site.tree.content? id with
  | some content =>
    rw [hcontent, Option.getD_some] at hlen
    exact ⟨content, rfl, hlen⟩
  | none =>
    rw [hcontent, Option.getD_none, List.length_nil] at hlen
    omega

/-- Where the file is as it was announced, a chunk is read as far as one request goes. -/
theorem exists_result_readAt (ht : site.tree.Sound) (hq : s.engine.waiting = [])
    (hp : s.connection.phase = .movingChunks) (hc : s.connection.InOrder)
    (hf : s.connection.Faithful site) : ∃ id, s.connection.file = some id ∧
      (s.engine.readAt site.tree ⟨id, s.connection.body.offset, s.connection.chunkLength site⟩
        (s.connection.chunk.widen (s.connection.chunkLength site))).result =
          .ok (FileBody.granted (s.connection.chunkLength site)) := by
  have hmoving := hc
  rw [InOrder, hp] at hmoving
  obtain ⟨-, -, -, hopen, -, hrem⟩ := hmoving
  obtain ⟨id, hfile⟩ := Option.isSome_iff_exists.1 hopen
  obtain ⟨content, hcontent, hlen⟩ :=
    exists_content_of_remaining (by rw [hp]; rfl) hc hf hfile hrem
  have hfits : s.connection.body.offset + s.connection.chunkLength site ≤ content.length := by
    rw [chunkLength]
    omega
  exact ⟨id, hfile, Engine.result_readAt hq hcontent hfits (ht.size_le id content hcontent)⟩

variable [Sink S] (hs : TakesAll S)

include hs

/-- The header goes out in one call, and all of a body that goes straight from the file. -/
theorem sendData_of_takesAll (ht : site.tree.Sound) (hp : s.connection.phase = .sendingData)
    (hc : s.connection.InOrder) (hf : s.connection.Faithful site) :
    (s.sendData site).1 = .ok .write ∧
      Phase.sendingData.rank < (s.sendData site).2.connection.phase.rank := by
  obtain ⟨socket, hflush⟩ := hs.flush s.connection.header s.socket
  have hdone : ∀ c : Connection, Phase.sendingData.rank < c.finalPhase.rank := fun c =>
    (edge_finalPhase c).rank_lt
  rw [sendData, hflush]
  dsimp only
  rw [afterHeader]
  split
  · -- There is no document, so the header was all.
    exact ⟨rfl, hdone _⟩
  rename_i id hid
  split
  · exact ⟨rfl, hdone _⟩
  split
  · -- The body goes straight from the file, which goes on up to its end.
    have hlen : s.connection.body.offset + s.connection.body.remaining ≤
        (contentOf site id).length := Nat.le_of_eq
          (offset_add_remaining_eq (by rw [hp]; rfl) hc hf hid)
    obtain ⟨socket', hrun⟩ := hs.run hlen (ht.length_contentOf_le id) socket
    rw [sendBody]
    simp only [update_connection, update_socket, hrun]
    exact ⟨trivial, hdone _⟩
  · -- The body is to be moved in chunks.
    exact ⟨rfl, Phase.Edge.turnToChunks.rank_lt⟩

/-- A chunk that was read goes out in one call. -/
theorem writeChunk_fst {n : Nat} (hq : s.engine.waiting = [])
    (hn : (s.connection.chunk.toBytes.take n).length = n) (hfits : n ≤ FileBody.transferLimit) :
    (s.writeChunk n).1 = .ok .write := by
  rw [writeChunk]
  have hlen : (s.connection.chunk.toBytes.take n).length ≤ FileBody.transferLimit :=
    Nat.le_trans (Nat.le_of_eq hn) hfits
  simp only [hs.writeFrom hq s.socket hlen, hn]
  rfl

/-- A chunk that one request can move is read and goes out. -/
theorem sendChunk_fst (ht : site.tree.Sound) (hq : s.engine.waiting = [])
    (hp : s.connection.phase = .movingChunks) (hc : s.connection.InOrder)
    (hf : s.connection.Faithful site)
    (hfits : s.connection.chunkLength site ≤ FileBody.transferLimit) :
    (s.sendChunk site).1 = .ok .write := by
  obtain ⟨id, hfile, hread⟩ := exists_result_readAt ht hq hp hc hf
  rw [FileBody.granted_of_le hfits] at hread
  obtain ⟨content, -, hcount, htake⟩ := Engine.readAt_filled hq hread
  rw [sendChunk, hfile]
  simp only
  rw [show min site.settings.chunkSize s.connection.body.remaining =
    s.connection.chunkLength site from rfl, hread]
  simp only [if_true]
  refine writeChunk_fst hs (Engine.waiting_runOne hq) ?_ hfits
  rw [update_connection, htake, hcount]

/-- As long as the response is not out, each call goes on, unless a chunk is too long. -/
theorem write_of_takesAll (ht : site.tree.Sound) (hq : s.engine.waiting = [])
    (hc : s.connection.InOrder) (hf : s.connection.Faithful site)
    (hlate : ¬s.connection.isEarly) (hopen : ¬s.connection.phase.isFinal)
    (hfits : s.connection.phase = .movingChunks →
      s.connection.chunkLength site ≤ FileBody.transferLimit) :
    (s.onWritable site).1 = .write := by
  rw [onWritable, finish_fst, writable]
  split
  · exact absurd (.inl ‹_›) hlate
  · exact absurd (.inr ‹_›) hlate
  · rfl
  · rfl
  · exact congrArg wish (prepareHeader_fst ht ‹_› hc hf)
  · exact congrArg wish (sendData_of_takesAll hs ht ‹_› hc hf).1
  · exact congrArg wish (sendChunk_fst hs ht hq ‹_› hc hf (hfits ‹_›))
  all_goals
    rename_i hfinal
    rw [hfinal] at hopen
    exact absurd rfl hopen

omit hs

/-- A chunk that is too long for one request is read in part. The connection is to be closed, and
    nothing is put on the socket, whatever it takes. -/
theorem close_of_overlong (ht : site.tree.Sound) (hq : s.engine.waiting = [])
    (hp : s.connection.phase = .movingChunks) (hc : s.connection.InOrder)
    (hf : s.connection.Faithful site)
    (hlong : FileBody.transferLimit < s.connection.chunkLength site) :
    (s.onWritable site).1 = .close ∧ (s.onWritable site).2.socket = s.socket ∧
      (s.onWritable site).2.connection.phase = .movingChunks := by
  obtain ⟨id, hfile, hread⟩ := exists_result_readAt ht hq hp hc hf
  have hshort : FileBody.granted (s.connection.chunkLength site) ≠ s.connection.chunkLength site :=
    Nat.ne_of_lt (Nat.lt_of_le_of_lt (Nat.min_le_right _ _) hlong)
  rw [onWritable, finish_fst, finish_socket, finish_connection, writable, hp]
  simp only
  rw [sendChunk, hfile]
  simp only
  rw [show min site.settings.chunkSize s.connection.body.remaining =
    s.connection.chunkLength site from rfl, hread]
  simp only [if_neg hshort]
  exact ⟨rfl, rfl, hp⟩

/-! ### To the end -/

/-- Calls the handler of writability so many times, as long as it does not want the
    connection closed. -/
def drive (site : Site) : Nat → Next × Session S → Next × Session S
  | 0, m => m
  | count + 1, m => if m.1 = .close then m else drive site count (m.2.onWritable site)

/-- Writability alone brings a connection to be closed, and this is what it leaves. -/
def EndsIn (site : Site) (m : Next × Session S) (t : Session S) : Prop :=
  ∃ n, ∀ count, n ≤ count → drive site count m = (.close, t)

/-- What is to be closed is at its end. -/
theorem EndsIn.of_close (s : Session S) : EndsIn site (.close, s) s := by
  refine ⟨0, fun count _ => ?_⟩
  rcases count with _ | count
  · rfl
  · exact if_pos rfl

/-- One call more leads to the same end. -/
theorem EndsIn.of_call {next : Next} {t : Session S} (hn : next ≠ .close)
    (h : EndsIn site (s.onWritable site) t) : EndsIn site (next, s) t := by
  obtain ⟨n, hn'⟩ := h
  refine ⟨n + 1, fun count hle => ?_⟩
  rcases count with _ | count
  · omega
  · exact (if_neg hn).trans (hn' count (Nat.le_of_succ_le_succ hle))

/-- What each call preserves holds at the end. -/
theorem EndsIn.preserves {motive : Session S → Prop}
    (call : ∀ s, motive s → motive (s.onWritable site).2) {m : Next × Session S} {t : Session S}
    (h : EndsIn site m t) (hm : motive m.2) : motive t := by
  have hdrive : ∀ (count : Nat) (m : Next × Session S), motive m.2 →
      motive (drive site count m).2 := by
    intro count
    induction count with
    | zero => exact fun m hm => hm
    | succ count ih =>
      intro m hm
      rw [drive]
      split
      · exact hm
      · exact ih _ (call m.2 hm)
  obtain ⟨n, hn⟩ := h
  have hend := hdrive n m hm
  rwa [hn n (Nat.le_refl n)] at hend

/-- A response that is out is only waiting for the connection to be closed. -/
theorem onWritable_of_isFinal (hp : s.connection.phase.isFinal) :
    s.onWritable site = (.close, s) := by
  rw [onWritable, writable]
  split
  -- In the seven phases before, the response is not out.
  iterate 7 simp_all [Phase.isFinal]
  all_goals rfl

end

end Session

end FileServer
