import FileServer.Proofs.Connection.Order

/-!
# The request comes once

A connection first collects its request (`Connection.isEarly`) and then has it. A call
from before that ends before it or right behind it (`Session.early_handle`), and once the
request is there, it stays as it is (`World.Later.received_eq`).
-/

namespace FileServer

variable {S : Type}

namespace Connection

variable {site : Site} {quiet : Prop} {next : Next} {w : Bytes} {c c' : Connection}

/-- Whether the request is still to come. -/
def isEarly (c : Connection) : Prop := c.phase = .initial ∨ c.phase = .receiving

/-- Once the request is there, it stays there as it is. -/
theorem Intake.stays_late (h : Intake c next c') (hc : ¬c.isEarly) :
    ¬c'.isEarly ∧ c'.received = c.received := by
  cases h with
  | receives _ hp => exact absurd hp hc
  | completes _ hp => exact absurd hp hc
  | ignores => exact ⟨hc, rfl⟩

/-- Before, it comes or is still to come. -/
theorem Intake.stays_early (h : Intake c next c') (hc : c.isEarly) :
    c'.isEarly ∨ c'.phase = .requestReceived := by
  cases h with
  | receives => exact .inl (.inr rfl)
  | completes => exact .inr rfl
  | ignores => exact .inl hc

theorem not_isEarly_finalPhase (c : Connection) : ¬(c.goTo c.finalPhase).isEarly := by
  have h := isAnnounced_finalPhase c
  rintro (hp | hp)
  · rw [show c.finalPhase = .initial from hp] at h
    cases h
  · rw [show c.finalPhase = .receiving from hp] at h
    cases h

theorem Output.stays_late (h : Output site quiet c next w c') (hc : ¬c.isEarly) :
    ¬c'.isEarly ∧ c'.received = c.received := by
  cases h with
  | early | late | loses => exact ⟨hc, rfl⟩
  | finds | misses | announcesPage | announcesNothing | announcesDocument | announcesNoDocument =>
    exact ⟨by simp [isEarly, announce], rfl⟩
  | turnsToChunks => exact ⟨by simp [isEarly, goTo], rfl⟩
  | sendsHeader | sendsBody | movesNothing => exact ⟨not_isEarly_finalPhase _, rfl⟩
  | sendsHeaderPart | sendsBodyPart | losesChunk => exact ⟨hc, rfl⟩
  | movesChunk chunk hp =>
    refine ⟨?_, rfl⟩
    simp only [isEarly, passChunk]
    split
    · simp
    · exact hc

/-- Writability does nothing before the request is there. -/
theorem Output.eq_of_early (h : Output site quiet c next w c') (hc : c.isEarly) : c' = c := by
  rcases hc with hp | hp <;> cases h <;> first | rfl | simp_all

end Connection

variable [Socket S]

namespace Session

variable (site : Site) (signal : Signal) {s : Session S}

/-- Once the request is there, it stays there as it is. -/
theorem late_handle (h : ¬s.connection.isEarly) :
    ¬(s.handle site signal).2.connection.isEarly ∧
      (s.handle site signal).2.connection.received = s.connection.received := by
  cases signal with
  | readable hangup => exact (intake_readable site hangup s).stays_late h
  | writable =>
    obtain ⟨w, ho⟩ := output_onWritable site s
    exact ho.stays_late h

/-- A call from before the request is there ends before that or right behind it. -/
theorem early_handle (h : s.connection.isEarly) : (s.handle site signal).2.connection.isEarly ∨
    (s.handle site signal).2.connection.phase = .requestReceived := by
  cases signal with
  | readable hangup => exact (intake_readable site hangup s).stays_early h
  | writable =>
    rw [handle, onWritable, finish_connection, writable]
    rcases h with hp | hp
    · rw [hp]
      exact .inl (.inl hp)
    · rw [hp]
      exact .inl (.inr hp)

end Session

namespace World

variable {world : World S} {next : Next} {s : Session S}

/-- The request is still to come, or there was a moment at which it had just come. -/
theorem Reached.exists_request (h : world.Reached (next, s)) :
    s.connection.isEarly ∨ ∃ m, world.Reached m ∧ m.2.connection.phase = .requestReceived ∧
      world.Later m (next, s) := by
  refine h.induction (motive := fun next s => s.connection.isEarly ∨ ∃ m, world.Reached m ∧
    m.2.connection.phase = .requestReceived ∧ world.Later m (next, s)) ?_ ?_
  · intro token peer socket engine notes _
    exact .inl (.inl rfl)
  · intro next s s' site signal hr hn he hs ih
    have hcall : world.Call (next, s) (s'.handle site signal) := .call signal hn he hs
    -- Where the request came before, this call is only one more behind that moment.
    rcases ih with hearly | ⟨m, hm, hp, hl⟩
    · rw [← he.connection] at hearly
      refine (Session.early_handle site signal hearly).imp_right fun hp => ⟨_, ?_, hp, .refl⟩
      exact hr.call signal hn he hs
    · exact .inr ⟨m, hm, hp, hl.tail hcall⟩

/-- What was received does not change once the request is there. -/
theorem Later.received_eq {m m' : Next × Session S} (h : world.Later m m')
    (hp : ¬m.2.connection.isEarly) :
    ¬m'.2.connection.isEarly ∧ m'.2.connection.received = m.2.connection.received := by
  refine h.preserves (motive := fun _ t => ¬t.connection.isEarly ∧
    t.connection.received = m.2.connection.received) ?_ ⟨hp, rfl⟩
  intro next s s' site signal _ he _ ih
  rw [← he.connection] at ih
  have hlate := Session.late_handle site signal ih.1
  exact ⟨hlate.1, hlate.2.trans ih.2⟩

end World

end FileServer
