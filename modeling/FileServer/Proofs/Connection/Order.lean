import FileServer.Proofs.Connection.Record

/-!
# Connections in order

What holds of a connection in each of its phases (`Connection.InOrder`): which of its
fields are still as they were at first, which files are open, and how the announced
length, the position and what remains belong together. Each of the two handlers
preserves it, whatever the socket, the engine and the files do.
-/

namespace FileServer

variable {S : Type}

/-- Whether a header was prepared. -/
def Phase.isAnnounced : Phase → Bool
  | sendingData | movingChunks | dataSent | headerSent | notFoundSent => true
  | _ => false

theorem ResponseHeader.length_toBytes_pos (h : ResponseHeader) : 0 < h.toBytes.length := by
  simp only [toBytes, lineEnd, List.length_append, List.length_cons]
  omega

namespace Connection

/-- Nothing of a response has been prepared. -/
structure Unanswered (c : Connection) : Prop where
  status : c.status = .ok
  header : c.header = {}
  body : c.body = ⟨0, 0⟩
  chunks : c.chunks = 0

theorem Unanswered.congr {c c' : Connection} (h : c.Unanswered) (hs : c'.status = c.status)
    (hh : c'.header = c.header) (hb : c'.body = c.body) (hc : c'.chunks = c.chunks) :
    c'.Unanswered :=
  ⟨hs.trans h.status, hh.trans h.header, hb.trans h.body, hc.trans h.chunks⟩

/-- The header announces the length that the position and what remains add up to. -/
structure Announced (c : Connection) : Prop where
  header : c.header.content = (ResponseHeader.mk c.status c.bodyLength).toBytes
  length : c.body.offset + c.body.remaining = c.bodyLength

/-- All that was announced is out. -/
structure Complete (c : Connection) : Prop extends Announced c where
  header_out : c.header.remaining = 0
  body_out : c.body.remaining = 0

/-- What holds in each phase. -/
def InOrder (c : Connection) : Prop :=
  match c.phase with
  | .initial | .receiving | .requestReceived | .sendingNotFound => c.Unanswered ∧ c.file = none
  | .sendingHeader => c.Unanswered ∧ c.file.isSome ∧ c.resource ≠ .unserved
  | .sendingData => c.Announced ∧ c.chunks = 0 ∧
      (0 < c.header.remaining ∨ 0 < c.body.remaining) ∧
      (c.status = .ok → c.file.isSome ∧ c.resource ≠ .unserved) ∧
      (c.file = none → c.body.remaining = 0)
  | .movingChunks => c.Announced ∧ c.status = .ok ∧ c.resource = .dynamic ∧ c.file.isSome ∧
      c.header.remaining = 0 ∧ 0 < c.body.remaining
  | .dataSent => c.Complete ∧ c.status = .ok ∧ 0 < c.bodyLength
  | .headerSent => c.Complete ∧ c.status = .ok ∧ c.bodyLength = 0
  | .notFoundSent => c.Complete ∧ c.status = .notFound ∧ c.chunks = 0
  | .closed => False

variable {site : Site} {quiet : Prop} {next : Next} {w : Bytes} {c c' : Connection}

/-- All of a body that is out lies before the position. -/
theorem Complete.offset_eq (h : c.Complete) : c.body.offset = c.bodyLength := by
  have := h.length
  rwa [h.body_out, Nat.add_zero] at this

/-- To carry a part of what remains keeps the sum. -/
theorem Announced.passBody {count : Nat} (h : c.Announced) (hcount : count ≤ c.body.remaining) :
    (c.passBody count).Announced := by
  have hlen := h.length
  refine ⟨h.header, ?_⟩
  simp only [Connection.passBody, FileBody.offset_advance, FileBody.remaining_advance]
  omega

/-- Where a header was prepared, the length is announced. -/
theorem InOrder.announced (hc : c.InOrder) (hp : c.phase.isAnnounced) : c.Announced := by
  rw [InOrder] at hc
  split at hc
  -- In the five phases before, no header was prepared.
  iterate 5 simp_all [Phase.isAnnounced]
  · exact hc.1
  · exact hc.1
  · exact hc.1.toAnnounced
  · exact hc.1.toAnnounced
  · exact hc.1.toAnnounced
  · exact hc.elim

/-- Before, the body is still empty. -/
theorem InOrder.unanswered (hc : c.InOrder) (hp : ¬c.phase.isAnnounced) : c.Unanswered := by
  rw [InOrder] at hc
  split at hc
  iterate 5 exact hc.1
  all_goals simp_all [Phase.isAnnounced]

/-- Where a header is due for a document, or chunks of one are moved, it is open. -/
theorem InOrder.file_ne_none (hc : c.InOrder)
    (hp : c.phase = .sendingHeader ∨ c.phase = .movingChunks) : c.file ≠ none := by
  rcases hp with hp | hp
  · rw [InOrder, hp] at hc
    exact Option.isSome_iff_ne_none.1 hc.2.1
  · rw [InOrder, hp] at hc
    exact Option.isSome_iff_ne_none.1 hc.2.2.2.1

/-- The final phases that are reached lie behind a header. -/
theorem InOrder.isAnnounced (hc : c.InOrder) (hp : c.phase.isFinal) : c.phase.isAnnounced := by
  rw [InOrder] at hc
  split at hc
  iterate 7 simp_all [Phase.isFinal]
  all_goals first | exact hc.elim | simp_all [Phase.isAnnounced]

/-- In a final phase all that was announced is out. -/
theorem InOrder.complete (hc : c.InOrder) (hp : c.phase.isFinal) : c.Complete := by
  rw [InOrder] at hc
  split at hc
  iterate 7 simp_all [Phase.isFinal]
  · exact hc.1
  · exact hc.1
  · exact hc.1
  · exact hc.elim

/-- A response that is out ends in the phase that goes with it. -/
theorem Complete.inOrder (h : c.Complete) (hchunks : c.chunks = 0) :
    (c.goTo c.finalPhase).InOrder := by
  have hc : ∀ phase, (c.goTo phase).Complete := fun _ =>
    ⟨⟨h.header, h.length⟩, h.header_out, h.body_out⟩
  cases hs : c.status with
  | notFound =>
    rw [finalPhase, hs]
    exact ⟨hc _, hs, hchunks⟩
  | ok =>
    rw [finalPhase, hs]
    by_cases hb : c.bodyLength = 0
    · simp only [if_pos hb]
      exact ⟨hc _, hs, hb⟩
    · simp only [if_neg hb]
      exact ⟨hc _, hs, Nat.pos_of_ne_zero hb⟩

theorem inOrder_announce {status : Status} {n : Nat} (hstatus : c.status = status)
    (hchunks : c.chunks = 0) (hok : status = .ok → c.file.isSome ∧ c.resource ≠ .unserved)
    (hnone : c.file = none → n = 0) : (c.announce ⟨status, n⟩).InOrder := by
  subst hstatus
  exact ⟨⟨rfl, Nat.zero_add n⟩, hchunks, .inl (ResponseHeader.length_toBytes_pos _), hok, hnone⟩

theorem isAnnounced_finalPhase (c : Connection) : c.finalPhase.isAnnounced := by
  rw [finalPhase]
  split
  · rfl
  · split <;> rfl

/-- What is announced and not sent straight from the file is a dynamic document. -/
theorem dynamic_of_not_isDirect (hok : c.status = .ok → c.resource ≠ .unserved)
    (hd : ¬Session.isDirect c) : c.status = .ok ∧ c.resource = .dynamic := by
  rw [Session.isDirect] at hd
  cases hs : c.status with
  | notFound => exact absurd (by rw [hs]; rfl) hd
  | ok =>
    refine ⟨rfl, ?_⟩
    cases hr : c.resource with
    | dynamic => rfl
    | static => exact absurd (by rw [hr]; simp) hd
    | unserved => exact absurd hr (hok hs)

/-- A chunk that is moved leaves more to be moved, or nothing. -/
theorem inOrder_passChunk {count : Nat} {chunk : LazyBytes} (hp : c.phase = .movingChunks)
    (hc : c.InOrder) (hcount : count ≤ c.body.remaining) : (c.passChunk count chunk).InOrder := by
  rw [InOrder, hp] at hc
  obtain ⟨ha, hstatus, hres, hfile, hheader, hrem⟩ := hc
  have hlen := ha.length
  have ha' : (c.passChunk count chunk).Announced :=
    ⟨(ha.passBody hcount).header, (ha.passBody hcount).length⟩
  by_cases hz : c.body.remaining - count = 0
  · have hphase : (c.passChunk count chunk).phase = .dataSent := if_pos hz
    rw [InOrder, hphase]
    exact ⟨⟨ha', hheader, hz⟩, hstatus, show 0 < c.bodyLength by omega⟩
  · have hphase : (c.passChunk count chunk).phase = .movingChunks := (if_neg hz).trans hp
    rw [InOrder, hphase]
    exact ⟨ha', hstatus, hres, hfile, hheader, Nat.pos_of_ne_zero hz⟩

/-- Readability preserves the order. -/
theorem Intake.inOrder (h : Intake c next c') (hc : c.InOrder) : c'.InOrder := by
  cases h with
  | receives bytes hp _ =>
    rcases hp with hp | hp <;>
    · rw [InOrder, hp] at hc
      exact ⟨hc.1.congr rfl rfl rfl rfl, hc.2⟩
  | completes bytes hp =>
    rcases hp with hp | hp <;>
    · rw [InOrder, hp] at hc
      exact ⟨hc.1.congr rfl rfl rfl rfl, hc.2⟩
  | ignores => exact hc

/-- Writability preserves the order. -/
theorem Output.inOrder (h : Output site quiet c next w c') (hc : c.InOrder) : c'.InOrder := by
  cases h with
  | early | late | loses => exact hc
  | finds hp hread hres hfile hid =>
    rw [InOrder, hp] at hc
    exact ⟨hc.1.congr rfl rfl rfl rfl, rfl, hres⟩
  | misses resource path hp =>
    rw [InOrder, hp] at hc
    exact ⟨hc.1.congr rfl rfl rfl rfl, hc.2⟩
  | announcesPage hp =>
    rw [InOrder, hp] at hc
    exact inOrder_announce rfl hc.1.chunks (by simp) (by simp)
  | announcesNothing hp =>
    rw [InOrder, hp] at hc
    exact inOrder_announce rfl hc.1.chunks (by simp) (by simp)
  | announcesDocument hp hfile =>
    rw [InOrder, hp] at hc
    exact inOrder_announce rfl hc.1.chunks (fun _ => hc.2) (by simp [hfile])
  | announcesNoDocument hp hfile => exact absurd hfile (hc.file_ne_none (.inl hp))
  | sendsHeaderPart hp hk =>
    -- Some of the header remains.
    rename_i k _
    rw [InOrder, hp] at hc
    obtain ⟨ha, hchunks, -, hopen⟩ := hc
    rw [InOrder, passHeader, hp]
    refine ⟨⟨ha.header, ha.length⟩, hchunks, .inl ?_, hopen⟩
    rw [SendBuffer.remaining_advance]
    omega
  | sendsHeader hp hnone =>
    -- The header is out, and there is no body.
    rw [InOrder, hp] at hc
    obtain ⟨ha, hchunks, -, -, hfile⟩ := hc
    have hrem : c.body.remaining = 0 := hnone.elim hfile id
    exact Complete.inOrder ⟨⟨ha.header, ha.length⟩, by simp [passHeader], hrem⟩ hchunks
  | sendsBodyPart hp hd hk =>
    -- The header is out, and some of the body remains.
    rename_i k _ _
    rw [InOrder, hp] at hc
    obtain ⟨ha, hchunks, -, hok, hnone⟩ := hc
    have ha' : (c.passHeader c.header.remaining).Announced := ⟨ha.header, ha.length⟩
    have hphase : ((c.passHeader c.header.remaining).passBody k).phase = .sendingData := hp
    rw [InOrder, hphase]
    refine ⟨ha'.passBody (Nat.le_of_lt hk), hchunks, .inr ?_, hok, fun hf => ?_⟩
    · simp only [passBody, passHeader, FileBody.remaining_advance]
      omega
    · have hrem : c.body.remaining = 0 := hnone hf
      simp only [passBody, passHeader, FileBody.remaining_advance]
      omega
  | sendsBody hp hd hrem =>
    rw [InOrder, hp] at hc
    obtain ⟨ha, hchunks, -⟩ := hc
    have ha' : (c.passHeader c.header.remaining).Announced := ⟨ha.header, ha.length⟩
    exact Complete.inOrder ⟨ha'.passBody (Nat.le_refl _), by simp [passBody, passHeader],
      by simp [passBody, passHeader]⟩ hchunks
  | turnsToChunks hp hfile hrem hd =>
    rw [InOrder, hp] at hc
    obtain ⟨ha, hchunks, -, hok, -⟩ := hc
    obtain ⟨hstatus, hres⟩ := dynamic_of_not_isDirect (fun hs => (hok hs).2) hd
    exact ⟨⟨ha.header, ha.length⟩, hstatus, hres, hfile, by simp [passHeader, goTo], hrem⟩
  | movesChunk chunk hp => exact inOrder_passChunk hp hc (Nat.min_le_right _ _)
  | losesChunk chunk hp =>
    rw [InOrder, hp] at hc
    rw [InOrder, hp]
    exact ⟨⟨hc.1.header, hc.1.length⟩, hc.2⟩
  | movesNothing hp hfile => exact absurd hfile (hc.file_ne_none (.inr hp))

end Connection

variable [Socket S]

/-- A call preserves the order. -/
theorem Session.inOrder_handle {site : Site} {s : Session S} (signal : Signal)
    (hc : s.connection.InOrder) : (s.handle site signal).2.connection.InOrder := by
  cases signal with
  | readable hangup => exact (Session.intake_readable site hangup s).inOrder hc
  | writable =>
    obtain ⟨w, h⟩ := Session.output_onWritable site s
    exact h.inOrder hc

/-- Connections that are reached are in order. -/
theorem World.Reached.inOrder {world : World S} {next : Next} {s : Session S}
    (h : world.Reached (next, s)) : s.connection.InOrder := by
  refine h.induction (motive := fun _ s => s.connection.InOrder) ?_ ?_
  · intro token peer socket engine notes _
    exact ⟨⟨rfl, rfl, rfl, rfl⟩, rfl⟩
  · intro next s s' site signal _ _ he _ hc
    exact Session.inOrder_handle signal (he.connection ▸ hc)

end FileServer
