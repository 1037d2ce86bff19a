import FileServer.Proofs.Connection.Containment
import FileServer.Proofs.Connection.Drive
import Mathlib.Algebra.Order.Floor.Div

/-!
# How many calls are left

How many calls an answer takes over a socket that takes everything is settled when the request is
there, whatever the socket does between the calls.

* It is one call each for the request, for the header and for what goes out behind it, and one
  more for each chunk: `Connection.callsLeft` counts down by one with each call
  (`Session.Underway.goesOn`).
* Where a chunk is longer than one request to the system can move (`Connection.Overlong`), it is
  the three calls before the first chunk, and nothing but the header goes out
  (`Session.Asked.goesOn_of_overlong`).

Either way writability alone brings what goes out of the answer (`Session.Asked.exists_endsIn`).
-/

namespace FileServer

variable {S : Type}

/-! ### Requests for dynamic documents -/

namespace Site

/-- How many chunks the answer to a request is moved in. -/
def chunkCount (site : Site) (request : Bytes) : Nat :=
  if site.isDynamic request then (site.answer request).body.length ⌈/⌉ site.settings.chunkSize
  else 0

variable {site : Site} {request : Bytes}

theorem chunkCount_of_no_document (h : site.document? request = none) :
    site.chunkCount request = 0 := by
  rw [chunkCount, isDynamic_of_no_document h]
  rfl

end Site

/-- A piece of the largest size less is one piece less. -/
theorem sub_min_ceilDiv_add_one {n size : Nat} (hn : 0 < n) (hsize : 0 < size) :
    (n - min size n) ⌈/⌉ size + 1 = n ⌈/⌉ size := by
  have hdiv : n ⌈/⌉ size = (n - 1) / size + 1 := by
    rw [Nat.ceilDiv_eq_add_pred_div, ← Nat.add_div_right _ hsize]
    congr 1
    omega
  rw [hdiv]
  congr 1
  rcases Nat.lt_or_ge n size with hlt | hle
  · rw [Nat.min_eq_right (Nat.le_of_lt hlt), Nat.sub_self, zero_ceilDiv, Nat.div_eq_of_lt]
    omega
  · rw [Nat.min_eq_left hle, Nat.ceilDiv_eq_add_pred_div]
    congr 1
    omega

theorem ceilDiv_pos {n size : Nat} (hn : 0 < n) (hsize : size ≠ 0) : 0 < n ⌈/⌉ size := by
  rw [← sub_min_ceilDiv_add_one hn (Nat.pos_of_ne_zero hsize)]
  exact Nat.succ_pos _

namespace Connection

variable {site : Site} {quiet : Prop} {w : Bytes} {c c' : Connection}

/-- The resource of a document that was found is that of the request. -/
def Classified (site : Site) (c : Connection) : Prop :=
  c.phase = .sendingHeader → c.resource = site.resourceOf c.received

theorem Output.classified {next : Next} (h : Output site quiet c next w c')
    (hk : c.Classified site) : c'.Classified site := by
  cases h with
  | early | late | loses => exact hk
  | finds hp hread =>
    intro _
    dsimp only
    rw [Site.resourceOf, hread]
  | misses | announcesPage | announcesNothing | announcesDocument | announcesNoDocument
  | turnsToChunks =>
    intro hp
    cases hp
  | sendsHeader | sendsBody | movesNothing =>
    -- The phase that is entered lies behind the header.
    intro hp
    have hann := isAnnounced_finalPhase c
    rw [show c.finalPhase = .sendingHeader from hp] at hann
    cases hann
  | sendsHeaderPart hp | sendsBodyPart hp | losesChunk _ hp =>
    intro hq
    cases hp.symm.trans hq
  | movesChunk chunk hp =>
    intro hq
    simp only [passChunk] at hq
    split at hq
    · cases hq
    · cases hp.symm.trans hq

/-! ### The calls that are left -/

/-- How many chunks are still to be moved. -/
def chunksLeft (site : Site) (c : Connection) : Nat :=
  match c.phase with
  | .requestReceived | .sendingHeader => site.chunkCount c.received
  | .sendingData =>
    if Session.isDirect c then 0 else c.body.remaining ⌈/⌉ site.settings.chunkSize
  | .movingChunks => c.body.remaining ⌈/⌉ site.settings.chunkSize
  | _ => 0

/-- A document that is announced is moved in as many chunks as its answer takes. -/
theorem chunkCount_of_document {id : FileId} {content : Bytes}
    (hid : site.document? c.received = some id) (hcontent : site.tree.content? id = some content)
    (hres : c.resource = site.resourceOf c.received) (hserved : c.resource ≠ .unserved) :
    site.chunkCount c.received =
      if c.resource = .static then 0 else content.length ⌈/⌉ site.settings.chunkSize := by
  rw [Site.chunkCount, Site.answer_of_document hid hcontent, Site.isDynamic, hid, ← hres]
  cases hr : c.resource with
  | static => rfl
  | dynamic => rfl
  | unserved => exact absurd hr hserved

theorem isFinal_finalPhase (c : Connection) : c.finalPhase.isFinal := by
  rw [finalPhase]
  split
  · rfl
  · split <;> rfl

/-- A response that is out has no chunks left. -/
theorem chunksLeft_of_isFinal (hp : c.phase.isFinal) : c.chunksLeft site = 0 := by
  rw [chunksLeft]
  split
  iterate 4 simp_all [Phase.isFinal]
  rfl

/-- Only to move a chunk changes how many there are to be moved. -/
theorem Output.chunksLeft_eq (h : Output site quiet c .write w c') (hc : c.InOrder)
    (hf : c.Faithful site) (hk : c.Classified site) (hchunk : site.settings.chunkSize ≠ 0) :
    c'.chunksLeft site + (if c.phase = .movingChunks then 1 else 0) = c.chunksLeft site := by
  cases h with
  | finds hp => simp [chunksLeft, hp]
  | misses _ _ hp hnone => simp [chunksLeft, hp, Site.chunkCount_of_no_document hnone]
  | announcesPage hp | announcesNothing hp =>
    simp [chunksLeft, hp, announce, Session.isDirect]
  | announcesDocument hp hfile hcontent =>
    -- As many chunks are announced as the request was to take.
    rw [InOrder, hp] at hc
    have hcount := chunkCount_of_document ((hf.serves hp).trans hfile) hcontent (hk hp) hc.2.2
    simp [chunksLeft, hp, announce, Session.isDirect, hcount]
  | announcesNoDocument hp hfile => exact absurd hfile (hc.file_ne_none (.inl hp))
  | sendsHeaderPart hp => simp [chunksLeft, hp, passHeader, Session.isDirect]
  | sendsHeader hp hnone =>
    rw [InOrder, hp] at hc
    have hrem : c.body.remaining = 0 := hnone.elim hc.2.2.2.2 id
    rw [chunksLeft_of_isFinal (isFinal_finalPhase c)]
    simp [chunksLeft, hp, hrem]
  | sendsBodyPart hp hd =>
    rename_i k _ _ _
    have hp' : ((c.passHeader c.header.remaining).passBody k).phase = .sendingData := hp
    have hd' : Session.isDirect ((c.passHeader c.header.remaining).passBody k) := hd
    simp [chunksLeft, hp, hp', hd, hd']
  | sendsBody hp hd =>
    rw [chunksLeft_of_isFinal (isFinal_finalPhase c)]
    simp [chunksLeft, hp, hd]
  | turnsToChunks hp hfile hrem hd => simp [chunksLeft, hp, goTo, passHeader, hd]
  | movesChunk chunk hp =>
    -- A chunk of the largest size less is one chunk less; the last one ends the answer.
    rw [InOrder, hp] at hc
    have hsub := sub_min_ceilDiv_add_one hc.2.2.2.2.2 (Nat.pos_of_ne_zero hchunk)
    change (c.body.remaining - c.chunkLength site) ⌈/⌉ site.settings.chunkSize + 1 = _ at hsub
    by_cases hz : c.body.remaining - c.chunkLength site = 0
    · rw [chunksLeft_of_isFinal (congrArg Phase.isFinal (if_pos hz)), if_pos hp, chunksLeft, hp]
      rwa [hz, zero_ceilDiv] at hsub
    · have hp' : (c.passChunk (c.chunkLength site) chunk).phase = .movingChunks :=
        (if_neg hz).trans hp
      rw [if_pos hp, chunksLeft, chunksLeft, hp, hp']
      exact hsub
  | movesNothing hp hfile => exact absurd hfile (hc.file_ne_none (.inr hp))

/-! ### Chunks that are too long -/

/-- If chunks are still to be moved, a single request to the system can move each of them. -/
def Fits (site : Site) (c : Connection) : Prop :=
  match c.phase with
  | .requestReceived | .sendingHeader => site.Movable c.received
  | .sendingData => Session.isDirect c ∨ c.chunkLength site ≤ FileBody.transferLimit
  | .movingChunks => c.chunkLength site ≤ FileBody.transferLimit
  | _ => True

/-- The document that is found decides it. -/
theorem movable_iff_of_document {id : FileId} {content : Bytes}
    (hid : site.document? c.received = some id) (hcontent : site.tree.content? id = some content)
    (hres : c.resource = site.resourceOf c.received) (hserved : c.resource ≠ .unserved) :
    site.Movable c.received ↔
      c.resource = .static ∨ min site.settings.chunkSize content.length ≤ FileBody.transferLimit := by
  rw [Site.Movable, Site.answer_of_document hid hcontent, Site.isDynamic, hid, ← hres]
  cases hr : c.resource with
  | static => simp
  | dynamic => simp
  | unserved => exact absurd hr hserved

theorem fits_of_isFinal (hp : c.phase.isFinal) : c.Fits site := by
  rw [Fits]
  split
  iterate 4 simp_all [Phase.isFinal]
  trivial

/-- Up to the first chunk no call changes whether chunks are too long. -/
theorem Output.fits_iff (h : Output site quiet c .write w c') (hc : c.InOrder)
    (hf : c.Faithful site) (hk : c.Classified site) (hp : c.phase ≠ .movingChunks) :
    c'.Fits site ↔ c.Fits site := by
  cases h with
  | finds hp => simp [Fits, hp]
  | misses _ _ hp hnone =>
    have hmovable : site.Movable c.received :=
      Site.movable_of_not_isDynamic (Site.isDynamic_of_no_document hnone)
    simp [Fits, hp, hmovable]
  | announcesPage hp | announcesNothing hp => simp [Fits, hp, announce, Session.isDirect]
  | announcesDocument hp hfile hcontent =>
    -- What is announced is as long as the document that the request decided on.
    rw [InOrder, hp] at hc
    have hmovable := movable_iff_of_document ((hf.serves hp).trans hfile) hcontent (hk hp) hc.2.2
    simp [Fits, hp, announce, Session.isDirect, chunkLength, hmovable]
  | announcesNoDocument hp hfile => exact absurd hfile (hc.file_ne_none (.inl hp))
  | sendsHeaderPart hp => simp [Fits, hp, passHeader, Session.isDirect, chunkLength]
  | sendsHeader hp hnone =>
    rw [InOrder, hp] at hc
    have hrem : c.body.remaining = 0 := hnone.elim hc.2.2.2.2 id
    refine iff_of_true (fits_of_isFinal (isFinal_finalPhase c)) ?_
    simp [Fits, hp, chunkLength, hrem]
  | sendsBodyPart hp hd =>
    rename_i k _ _ _
    have hp' : ((c.passHeader c.header.remaining).passBody k).phase = .sendingData := hp
    have hd' : Session.isDirect ((c.passHeader c.header.remaining).passBody k) := hd
    simp [Fits, hp, hp', hd, hd']
  | sendsBody hp hd =>
    refine iff_of_true (fits_of_isFinal (isFinal_finalPhase c)) ?_
    simp [Fits, hp, hd]
  | turnsToChunks hp hfile hrem hd => simp [Fits, hp, goTo, passHeader, hd, chunkLength]
  | movesChunk _ hp' | movesNothing hp' => exact absurd hp' hp

/-- Where no chunk is too long, none becomes so. -/
theorem Output.fits (h : Output site quiet c .write w c') (hc : c.InOrder)
    (hf : c.Faithful site) (hk : c.Classified site) (hfits : c.Fits site) : c'.Fits site := by
  by_cases hp : c.phase = .movingChunks
  · cases h with
    | movesChunk chunk =>
      rw [Fits, hp] at hfits
      by_cases hz : c.body.remaining - c.chunkLength site = 0
      · exact fits_of_isFinal (congrArg Phase.isFinal (if_pos hz))
      · -- The next chunk is as long as this one, or it is the rest.
        have hp' : (c.passChunk (c.chunkLength site) chunk).phase = .movingChunks :=
          (if_neg hz).trans hp
        have hle : (c.passChunk (c.chunkLength site) chunk).chunkLength site ≤
            c.chunkLength site := by
          simp only [chunkLength, passChunk, passBody, FileBody.remaining_advance]
          omega
        rw [Fits, hp']
        exact Nat.le_trans hle hfits
    | movesNothing => exact fits_of_isFinal (isFinal_finalPhase c)
    | misses _ _ hp' | _ hp' => cases hp.symm.trans hp'
  · exact (h.fits_iff hc hf hk hp).2 hfits

/-- Nothing of the body is out, and its first chunk is too long. -/
structure Overlong (site : Site) (c : Connection) : Prop where
  offset : c.body.offset = 0
  unfit : ¬c.Fits site

/-- Up to that chunk each call leaves it so. -/
theorem Output.overlong (h : Output site quiet c .write w c') (hc : c.InOrder)
    (hf : c.Faithful site) (hk : c.Classified site) (hp : c.phase ≠ .movingChunks)
    (ho : c.Overlong site) : c'.Overlong site := by
  have hunfit : ¬c'.Fits site := fun h' => ho.unfit ((h.fits_iff hc hf hk hp).1 h')
  refine ⟨?_, hunfit⟩
  cases h with
  | finds | misses | sendsHeaderPart | turnsToChunks => exact ho.offset
  | announcesPage | announcesNothing | announcesDocument | announcesNoDocument => rfl
  | sendsHeader | sendsBody => exact absurd (fits_of_isFinal (isFinal_finalPhase c)) hunfit
  | sendsBodyPart hp' hd => exact absurd (by rw [Fits, hp']; exact .inl hd) ho.unfit
  | movesChunk _ hp' | movesNothing hp' => exact absurd hp' hp

/-- With a chunk that is too long the request is there, and the response is not out. -/
theorem Overlong.rank_le (h : c.Overlong site) (hlate : ¬c.isEarly) :
    c.phase.rank ≤ 5 ∧ (c.phase.rank = 5 → c.phase = .movingChunks) := by
  have hopen : ¬c.phase.isFinal := fun hp => h.unfit (fits_of_isFinal hp)
  cases hp : c.phase with
  | initial => exact absurd (.inl hp) hlate
  | receiving => exact absurd (.inr hp) hlate
  | dataSent | headerSent | notFoundSent | closed =>
    rw [hp] at hopen
    exact absurd rfl hopen
  | _ => exact ⟨by decide, by decide⟩

/-! ### Down to no call -/

/-- Where chunks are moved, there is one to be moved. -/
theorem InOrder.chunksLeft_pos (hc : c.InOrder) (hp : c.phase = .movingChunks)
    (hchunk : site.settings.chunkSize ≠ 0) : 0 < c.chunksLeft site := by
  rw [InOrder, hp] at hc
  rw [chunksLeft, hp]
  exact ceilDiv_pos hc.2.2.2.2.2 hchunk

/-- A call that is not about the body leads to the next rank. -/
theorem Output.rank_eq (h : Output site quiet c .write w c') (hd : c.phase ≠ .sendingData)
    (hm : c.phase ≠ .movingChunks) :
    c.phase.rank < 4 ∧ c'.phase.rank = c.phase.rank + 1 := by
  cases h with
  | finds hp | misses _ _ hp | announcesPage hp | announcesNothing hp | announcesDocument hp
  | announcesNoDocument hp =>
    rw [hp]
    exact ⟨by decide, rfl⟩
  | sendsHeaderPart hp | sendsHeader hp | sendsBodyPart hp | sendsBody hp | turnsToChunks hp =>
    exact absurd hp hd
  | movesChunk _ hp | movesNothing hp => exact absurd hp hm

/-- How many calls want to write on, where each one does all that it has to do. -/
def callsLeft (site : Site) (c : Connection) : Nat := (5 - c.phase.rank) + c.chunksLeft site

/-- Where the header does not have to wait, each call is one call less. -/
theorem Output.callsLeft_eq (h : Output site quiet c .write w c') (hc : c.InOrder)
    (hf : c.Faithful site) (hk : c.Classified site) (hchunk : site.settings.chunkSize ≠ 0)
    (hsends : c.phase = .sendingData → c.phase.rank < c'.phase.rank) :
    c'.callsLeft site + 1 = c.callsLeft site := by
  have hchunks := h.chunksLeft_eq hc hf hk hchunk
  rw [callsLeft, callsLeft]
  by_cases hm : c.phase = .movingChunks
  -- To move a chunk leaves the phase as it is or ends it, and takes one chunk off.
  · have hrank : c.phase.rank ≤ c'.phase.rank := by
      cases h.advances hc hchunk with
      | forward hlt => exact Nat.le_of_lt hlt
      | sends hp => cases hm.symm.trans hp
      | moves hp hq => rw [hp, hq]
    rw [if_pos hm] at hchunks
    rw [hm] at hrank ⊢
    simp only [Phase.rank] at hrank ⊢
    omega
  rw [if_neg hm] at hchunks
  -- Any other call leads to the next rank and leaves the chunks as they are.
  by_cases hd : c.phase = .sendingData
  · have hrank := hsends hd
    rw [hd] at hrank ⊢
    simp only [Phase.rank] at hrank ⊢
    omega
  · obtain ⟨hlt, hrank⟩ := h.rank_eq hd hm
    omega

/-- A response that is out has no call left, -/
theorem callsLeft_of_isFinal (hp : c.phase.isFinal) : c.callsLeft site = 0 := by
  rw [callsLeft, chunksLeft_of_isFinal hp]
  cases hphase : c.phase <;> simp_all [Phase.rank, Phase.isFinal]

/-- and no other one has none. -/
theorem InOrder.isFinal_of_callsLeft (hc : c.InOrder) (hchunk : site.settings.chunkSize ≠ 0)
    (hzero : c.callsLeft site = 0) : c.phase.isFinal := by
  rw [callsLeft] at hzero
  cases hp : c.phase with
  | movingChunks =>
    have hpos := hc.chunksLeft_pos hp hchunk
    omega
  | dataSent | headerSent | notFoundSent | closed => rfl
  | _ =>
    rw [hp] at hzero
    simp [Phase.rank] at hzero

end Connection

/-! ### From call to call -/

namespace Session

open Connection

/-- The request is there, and nothing of a response. -/
structure Asked (s : Session (Recorded S)) : Prop where
  phase : s.connection.phase = .requestReceived
  inOrder : s.connection.InOrder
  sent : s.socket.sent = []

/-- A request is being answered. -/
structure Underway (site : Site) (request : Bytes) (s : Session (Recorded S)) : Prop
    extends s.Answering site .write where
  classified : s.connection.Classified site
  late : ¬s.connection.isEarly
  received : s.connection.received = request

variable {site : Site} {request : Bytes} {s t : Session (Recorded S)}

/-- At first nothing of the answer is on the socket. -/
theorem Asked.underway (h : s.Asked) : s.Underway site s.connection.received := by
  have hc := h.inOrder
  rw [InOrder, h.phase] at hc
  have hbody : s.bodySent = [] := by rw [bodySent, h.sent, List.drop_nil]
  refine ⟨⟨⟨h.inOrder, ⟨?_, .inl hbody⟩, .inl ?_⟩, .of_undecided (.inr (.inr h.phase)), ?_⟩, ?_,
    ?_, rfl⟩
  · rw [h.sent, hbody, hc.1.header]
    rfl
  · rw [hbody, hc.1.body]
    rfl
  · intro hp
    rw [h.phase] at hp
    cases hp
  · intro hp
    cases h.phase.symm.trans hp
  · rintro (hp | hp) <;> cases h.phase.symm.trans hp

/-- A request finds chunks that are too long, or none. -/
theorem Asked.fits_iff (h : s.Asked) :
    s.connection.Fits site ↔ site.Movable s.connection.received := by
  rw [Fits, h.phase]

/-- Between two calls nothing happens to the connection. -/
theorem Underway.elapses (h : s.Underway site request) (he : (World.still S site).Elapses s t) :
    t.Underway site request where
  toOnWire := h.toOnWire.congr he.connection he.socket
  faithful := he.connection ▸ h.faithful
  body := by
    have hbody : t.bodySent = s.bodySent := by
      rw [bodySent, bodySent, he.connection, show t.socket.sent = s.socket.sent from he.socket]
    rw [hbody, he.connection]
    exact h.body
  classified := he.connection ▸ h.classified
  late := he.connection ▸ h.late
  received := he.connection ▸ h.received

variable [Socket S]

/-- What a call does to a connection, and what it puts on the socket. -/
theorem sent_onWritable (site : Site) (s : Session (Recorded S)) :
    ∃ w, Output site (s.engine.waiting = []) s.connection (s.onWritable site).1 w
        (s.onWritable site).2.connection ∧
      (s.onWritable site).2.socket.sent = s.socket.sent ++ w := by
  obtain ⟨w, ho, hsent, -⟩ := ends_writable site s
  rw [onWritable, finish_fst, finish_connection, finish_socket]
  exact ⟨w, ho, hsent⟩

/-- A call goes on with the answer. -/
theorem Underway.call (h : s.Underway site request) (hq : s.engine.waiting = [])
    (hwrite : (s.onWritable site).1 = .write) : (s.onWritable site).2.Underway site request := by
  have hanswering := answering_handle site .writable hq h.toAnswering (by decide)
  rw [handle, hwrite] at hanswering
  obtain ⟨hlate, hreceived⟩ := late_handle site .writable h.late
  obtain ⟨w, ho⟩ := output_onWritable site s
  exact ⟨hanswering, ho.classified h.classified, hlate, hreceived.trans h.received⟩

/-- The next call wants the connection closed, and all of the answer is on the socket. -/
def Closes (site : Site) (request : Bytes) (s : Session (Recorded S)) : Prop :=
  s.onWritable site = (.close, s) ∧ s.socket.sent = (site.answer request).toBytes

/-- A response that is out is closed. -/
theorem Underway.closes (h : s.Underway site request) (hp : s.connection.phase.isFinal) :
    s.Closes site request :=
  ⟨onWritable_of_isFinal hp, h.received ▸ h.toAnswering.sent_prefix.2.2 hp⟩

/-- The next call finds a chunk to be moved and wants the connection closed, and nothing but the
    header of the answer is on the socket. -/
def Breaks (site : Site) (request : Bytes) (s : Session (Recorded S)) : Prop :=
  s.connection.phase = .movingChunks ∧ (s.onWritable site).1 = .close ∧
    (s.onWritable site).2.socket.sent = (site.answer request).header.toBytes

/-- Exactly so many calls want to write on, and then the session is as `last` says, whatever
    becomes of the socket in between. -/
def GoesOn (site : Site) (last : Session (Recorded S) → Prop) : Nat → Session (Recorded S) → Prop
  | 0, s => ∀ t, (World.still S site).Elapses s t → last t
  | count + 1, s => ∀ t, (World.still S site).Elapses s t →
      (t.onWritable site).1 = .write ∧ GoesOn site last count (t.onWritable site).2

/-- Exactly so many calls want to write on, and the next one closes, whatever becomes of the
    socket in between. -/
def EndsAfter (site : Site) (request : Bytes) (count : Nat) (s : Session (Recorded S)) : Prop :=
  GoesOn site (Closes site request) count s

/-- Exactly so many calls want to write on, and the next one breaks off, whatever becomes of the
    socket in between. -/
def BreaksAfter (site : Site) (request : Bytes) (count : Nat) (s : Session (Recorded S)) : Prop :=
  GoesOn site (Breaks site request) count s

theorem GoesOn.imp {last last' : Session (Recorded S) → Prop} {count : Nat}
    (h : GoesOn site last count s) (himp : ∀ t, last t → last' t) : GoesOn site last' count s := by
  induction count generalizing s with
  | zero => exact fun t he => himp t (h t he)
  | succ count ih => exact fun t he => ⟨(h t he).1, ih (h t he).2⟩

/-- Where nothing becomes of the socket in between, this is how it ends. -/
theorem GoesOn.exists_endsIn {last : Session (Recorded S) → Prop} {count : Nat}
    (h : GoesOn site last count s) (hq : s.engine.waiting = [])
    (hlast : ∀ t, last t → (t.onWritable site).1 = .close) :
    ∃ t, last t ∧ EndsIn site (.write, s) (t.onWritable site).2 := by
  have hstill : (World.still S site).Elapses s s := ⟨rfl, rfl, hq⟩
  induction count generalizing s with
  | zero =>
    have hs := h s hstill
    refine ⟨s, hs, .of_call (by decide) ?_⟩
    rw [show s.onWritable site = (.close, (s.onWritable site).2) from
      Prod.ext (hlast s hs) rfl]
    exact .of_close _
  | succ count ih =>
    obtain ⟨hwrite, hnext⟩ := h s hstill
    have hq' : (s.onWritable site).2.engine.waiting = [] := waiting_handle site .writable hq
    obtain ⟨t, ht, hend⟩ := ih hnext hq' ⟨rfl, rfl, hq'⟩
    refine ⟨t, ht, .of_call (by decide) ?_⟩
    rw [show s.onWritable site = (.write, (s.onWritable site).2) from Prod.ext hwrite rfl]
    exact hend

/-- And it does not go on any longer. -/
theorem GoesOn.not_goesOn {last last' : Session (Recorded S) → Prop} {count : Nat}
    (h : GoesOn site last count s) (hq : s.engine.waiting = [])
    (hlast : ∀ t, last t → (t.onWritable site).1 = .close) :
    ¬GoesOn site last' (count + 1) s := by
  intro h'
  have hstill : (World.still S site).Elapses s s := ⟨rfl, rfl, hq⟩
  induction count generalizing s with
  | zero => exact absurd ((hlast s (h s hstill)).symm.trans (h' s hstill).1) (by decide)
  | succ count ih =>
    have hq' : (s.onWritable site).2.engine.waiting = [] := waiting_handle site .writable hq
    exact ih (h s hstill).2 hq' (h' s hstill).2 ⟨rfl, rfl, hq'⟩

/-! ### Sockets that take everything -/

section

variable (hs : TakesAll S) (ht : site.tree.Sound)

include hs ht

/-- What is sent ahead of the chunks goes out in one call. -/
theorem rank_lt_of_takesAll (h : s.Underway site request)
    (hp : s.connection.phase = .sendingData) :
    s.connection.phase.rank < (s.onWritable site).2.connection.phase.rank := by
  obtain ⟨-, hrank⟩ := sendData_of_takesAll hs.recorded ht hp h.inOrder h.faithful
  rw [onWritable, finish_connection, writable, hp]
  exact hrank

/-- A call over a socket that takes everything, as long as no chunk is too long. -/
theorem Underway.callsLeft_eq (h : s.Underway site request)
    (hchunk : site.settings.chunkSize ≠ 0) (hq : s.engine.waiting = [])
    (hfits : s.connection.Fits site) (hopen : ¬s.connection.phase.isFinal) :
    (s.onWritable site).1 = .write ∧ (s.onWritable site).2.connection.Fits site ∧
      (s.onWritable site).2.connection.callsLeft site + 1 = s.connection.callsLeft site := by
  have hwrite : (s.onWritable site).1 = .write :=
    write_of_takesAll hs.recorded ht hq h.inOrder h.faithful h.late hopen fun hp => by
      rwa [Fits, hp] at hfits
  obtain ⟨w, ho⟩ := output_onWritable site s
  rw [hwrite] at ho
  exact ⟨hwrite, ho.fits h.inOrder h.faithful h.classified hfits,
    ho.callsLeft_eq h.inOrder h.faithful h.classified hchunk (rank_lt_of_takesAll hs ht h)⟩

/-- As many calls follow as are left, and then the response is out. -/
theorem Underway.goesOn (hchunk : site.settings.chunkSize ≠ 0) {count : Nat}
    (h : s.Underway site request) (hfits : s.connection.Fits site)
    (hcount : s.connection.callsLeft site = count) :
    GoesOn site (fun t => t.Underway site request ∧ t.connection.phase.isFinal) count s := by
  induction count generalizing s with
  | zero =>
    intro t he
    exact ⟨h.elapses he, he.connection ▸ h.inOrder.isFinal_of_callsLeft hchunk hcount⟩
  | succ count ih =>
    intro t he
    have ht' := h.elapses he
    rw [← he.connection] at hcount hfits
    have hopen : ¬t.connection.phase.isFinal := fun hp => by
      rw [callsLeft_of_isFinal hp] at hcount
      cases hcount
    obtain ⟨hwrite, hfits', hless⟩ := ht'.callsLeft_eq hs ht hchunk he.engine hfits hopen
    exact ⟨hwrite, ih (ht'.call he.engine hwrite) hfits' (by omega)⟩

/-- Up to a chunk that is too long, each call leads to the next rank. -/
theorem Underway.rank_eq_of_overlong (h : s.Underway site request) (hq : s.engine.waiting = [])
    (hlong : s.connection.Overlong site) (hp : s.connection.phase ≠ .movingChunks) :
    (s.onWritable site).1 = .write ∧ (s.onWritable site).2.connection.Overlong site ∧
      (s.onWritable site).2.connection.phase.rank = s.connection.phase.rank + 1 := by
  have hopen : ¬s.connection.phase.isFinal := fun hf => hlong.unfit (fits_of_isFinal hf)
  have hwrite : (s.onWritable site).1 = .write :=
    write_of_takesAll hs.recorded ht hq h.inOrder h.faithful h.late hopen fun hp' =>
      absurd hp' hp
  obtain ⟨w, ho⟩ := output_onWritable site s
  rw [hwrite] at ho
  have hlong' := ho.overlong h.inOrder h.faithful h.classified hp hlong
  refine ⟨hwrite, hlong', ?_⟩
  by_cases hd : s.connection.phase = .sendingData
  · have hrank := rank_lt_of_takesAll hs ht h hd
    have hle := (hlong'.rank_le (h.call hq hwrite).late).1
    rw [hd] at hrank ⊢
    simp only [Phase.rank] at hrank hle ⊢
    omega
  · exact (ho.rank_eq hd hp).2

/-- The calls before a chunk that is too long want to write on. -/
theorem Underway.goesOn_of_overlong {count : Nat} (h : s.Underway site request)
    (hlong : s.connection.Overlong site) (hcount : s.connection.phase.rank + count = 5) :
    GoesOn site (fun t => t.Underway site request ∧ t.connection.Overlong site ∧
      t.connection.phase = .movingChunks ∧ t.engine.waiting = []) count s := by
  induction count generalizing s with
  | zero =>
    intro t he
    refine ⟨h.elapses he, he.connection ▸ hlong, ?_, he.engine⟩
    rw [he.connection]
    exact (hlong.rank_le h.late).2 hcount
  | succ count ih =>
    intro t he
    have ht' := h.elapses he
    rw [← he.connection] at hlong hcount
    have hp : t.connection.phase ≠ .movingChunks := fun hp => by
      rw [hp] at hcount
      simp only [Phase.rank] at hcount
      omega
    obtain ⟨hwrite, hlong', hrank⟩ := ht'.rank_eq_of_overlong hs ht he.engine hlong hp
    exact ⟨hwrite, ih (ht'.call he.engine hwrite) hlong' (by omega)⟩

end

/-- A chunk that is too long breaks the answer off behind its header. -/
theorem Underway.breaks (h : s.Underway site request) (ht : site.tree.Sound)
    (hq : s.engine.waiting = []) (hlong : s.connection.Overlong site)
    (hp : s.connection.phase = .movingChunks) : s.Breaks site request := by
  have hunfit := hlong.unfit
  rw [Fits, hp, Nat.not_le] at hunfit
  obtain ⟨hclose, hsocket, -⟩ := close_of_overlong ht hq hp h.inOrder h.faithful hunfit
  refine ⟨hp, hclose, ?_⟩
  have hannounced : s.connection.phase.isAnnounced := by rw [hp]; rfl
  have hc := h.inOrder
  rw [InOrder, hp] at hc
  -- The header is out, and of the body nothing.
  have hbody : s.bodySent = [] := by
    rcases h.counted with hlen | ⟨hover, -⟩
    · exact List.eq_nil_of_length_eq_zero (hlen.trans hlong.offset)
    · cases hover
  rw [hsocket, h.wire.sent_eq, hbody, List.append_nil,
    List.take_of_length_le (Nat.le_of_sub_eq_zero hc.2.2.2.2.1), hc.1.header, ← h.received,
    Answer.header, h.faithful.status hannounced, h.faithful.length hannounced]

/-- A request whose chunks are too long is not answered but by the header. -/
theorem Asked.goesOn_of_overlong (h : s.Asked) (hs : TakesAll S) (ht : site.tree.Sound)
    (hlong : ¬site.Movable s.connection.received) :
    GoesOn site (fun t => t.Underway site s.connection.received ∧ t.connection.Overlong site ∧
      t.connection.phase = .movingChunks ∧ t.engine.waiting = []) 3 s := by
  have hc := h.inOrder
  rw [InOrder, h.phase] at hc
  refine h.underway.goesOn_of_overlong hs ht ⟨?_, fun hfits => hlong (h.fits_iff.1 hfits)⟩ ?_
  · rw [hc.1.body]
  · rw [h.phase]
    rfl

/-- Over a socket that takes everything, a request is answered in as many calls as there are
    chunks, and three, -/
theorem Asked.endsAfter (h : s.Asked) (hs : TakesAll S) (ht : site.tree.Sound)
    (hchunk : site.settings.chunkSize ≠ 0) (hmovable : site.Movable s.connection.received) :
    EndsAfter site s.connection.received (3 + site.chunkCount s.connection.received) s := by
  have hcalls : s.connection.callsLeft site = 3 + site.chunkCount s.connection.received := by
    rw [callsLeft, chunksLeft, h.phase]
    rfl
  exact (h.underway.goesOn hs ht hchunk (h.fits_iff.2 hmovable) hcalls).imp
    fun _ ht' => ht'.1.closes ht'.2

/-- and one whose chunks are too long breaks off behind three. -/
theorem Asked.breaksAfter (h : s.Asked) (hs : TakesAll S) (ht : site.tree.Sound)
    (hlong : ¬site.Movable s.connection.received) :
    BreaksAfter site s.connection.received 3 s :=
  (h.goesOn_of_overlong hs ht hlong).imp fun _ ht' => ht'.1.breaks ht ht'.2.2.2 ht'.2.1 ht'.2.2.1

/-- Over a socket that takes everything, writability alone brings what goes out of the answer. -/
theorem Asked.exists_endsIn (h : s.Asked) (hs : TakesAll S) (ht : site.tree.Sound)
    (hchunk : site.settings.chunkSize ≠ 0) (hq : s.engine.waiting = []) :
    ∃ t, EndsIn site (.write, s) t ∧ t.connection.phase.isAnnounced ∧
      t.socket.sent = site.delivered s.connection.received := by
  by_cases hmovable : site.Movable s.connection.received
  · obtain ⟨t, ⟨ht', hfinal⟩, hend⟩ := (h.underway.goesOn hs ht hchunk (h.fits_iff.2 hmovable)
      rfl).exists_endsIn hq fun t ht' => by rw [onWritable_of_isFinal ht'.2]
    rw [onWritable_of_isFinal hfinal] at hend
    refine ⟨t, hend, ht'.inOrder.isAnnounced hfinal, ?_⟩
    rw [Site.delivered, if_pos hmovable, (ht'.closes hfinal).2]
  · have hbreaks : ∀ {t : Session (Recorded S)}, t.Underway site s.connection.received ∧
        t.connection.Overlong site ∧ t.connection.phase = .movingChunks ∧ t.engine.waiting = [] →
          t.Breaks site s.connection.received := fun ht' =>
      ht'.1.breaks ht ht'.2.2.2 ht'.2.1 ht'.2.2.1
    obtain ⟨t, ht', hend⟩ := (h.goesOn_of_overlong hs ht hmovable).exists_endsIn hq
      fun t ht' => (hbreaks ht').2.1
    have hunfit := ht'.2.1.unfit
    rw [Fits, ht'.2.2.1, Nat.not_le] at hunfit
    refine ⟨_, hend, ?_, ?_⟩
    · rw [(close_of_overlong ht ht'.2.2.2 ht'.2.2.1 ht'.1.inOrder ht'.1.faithful hunfit).2.2]
      rfl
    · rw [Site.delivered, if_neg hmovable, (hbreaks ht').2.2]

end Session

end FileServer
