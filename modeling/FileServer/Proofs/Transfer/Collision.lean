import FileServer.Proofs.Transfer.Accounting

/-!
# Whose completion a request gets

A request that is run to its end knows its completion by its tag. The engine's own tags count
up from one and leave out zero, but a request that is handed in in a list carries whatever tag
it was given, and its completion may still wait. Where one with the next tag of the engine's
own waits, it is taken in the place of the right one, which then stays behind
(`Engine.foreign_completion_taken`).

This is the only way in which it can happen: as long as no completion with that tag waits, a
request gets its own completion, and nothing waits behind it
(`Engine.Reached.own_completion_iff`). So requests that carry the tag zero, which is what they
carry if nobody gives them another, do no harm.
-/

namespace FileServer.Engine

variable {R W : Type} {carry : R → W → Verdict W} {e : Engine} {w w' : W} {transfer : R}
  {result : Except SystemError Nat} {history : List Booking}

/-- No completion that waits has the tag that a request of the engine's own would have. -/
def TagFree (e : Engine) : Prop := ∀ c ∈ e.waiting, c.tag ≠ e.nextTag

/-- Where the tag is free, a request takes out all that waits and its own completion. -/
theorem runOne_of_tagFree (length : Nat) (hfree : e.TagFree)
    (hcarry : carry transfer w = .finished result w') :
    (e.runOne carry w transfer length).result = result ∧
      (e.runOne carry w transfer length).engine.waiting = [] := by
  rw [runOne_of_split hcarry rfl rfl hfree]
  exact ⟨rfl, rfl⟩

/-- Where the tag is taken, a request gets the result of another one that waits, and its own
    completion is the last of those that still wait. -/
theorem runOne_of_not_tagFree (length : Nat) (htaken : ¬e.TagFree)
    (hcarry : carry transfer w = .finished result w') :
    (∃ c ∈ e.waiting, c.tag = e.nextTag ∧ (e.runOne carry w transfer length).result = c.result) ∧
      ∃ left, (e.runOne carry w transfer length).engine.waiting = left ++ [⟨e.nextTag, result⟩] := by
  rw [TagFree] at htaken
  push Not at htaken
  obtain ⟨foreign, own, left, hwaiting, hown, hforeign⟩ := exists_split htaken
  have hsplit : e.waiting ++ [⟨e.nextTag, result⟩] =
      foreign ++ own :: (left ++ [⟨e.nextTag, result⟩]) := by
    rw [hwaiting, List.append_assoc, List.cons_append]
  rw [runOne_of_split hcarry hsplit hown hforeign]
  refine ⟨⟨own, ?_, hown, rfl⟩, left, rfl⟩
  rw [hwaiting]
  exact List.mem_append_right _ List.mem_cons_self

/-- In every run, a request that is accepted and run to its end leaves nothing behind it just where
    its tag is free, and then gets its own result; where the tag is taken it gets the result of
    another, and its own completion still waits. Tags that are zero take none. -/
theorem Reached.own_completion_iff (he : Reached history e) (length : Nat)
    (hcarry : carry transfer w = .finished result w') :
    ((e.runOne carry w transfer length).engine.waiting = [] ↔ e.TagFree) ∧
      (e.TagFree → (e.runOne carry w transfer length).result = result) ∧
      (¬e.TagFree →
        (∃ c ∈ e.waiting, c.tag = e.nextTag ∧
          (e.runOne carry w transfer length).result = c.result) ∧
        ⟨e.nextTag, result⟩ ∈ (e.runOne carry w transfer length).engine.waiting) ∧
      ((∀ c ∈ e.waiting, c.tag = 0) → e.TagFree) := by
  refine ⟨⟨fun hnil => ?_, fun hfree => (runOne_of_tagFree length hfree hcarry).2⟩,
    fun hfree => (runOne_of_tagFree length hfree hcarry).1, fun htaken => ?_, fun hzero c hc => ?_⟩
  · by_contra htaken
    obtain ⟨-, left, hleft⟩ := runOne_of_not_tagFree length htaken hcarry
    rw [hnil] at hleft
    exact List.append_ne_nil_of_right_ne_nil _ (List.cons_ne_nil _ _) hleft.symm
  · obtain ⟨hother, left, hleft⟩ := runOne_of_not_tagFree length htaken hcarry
    rw [hleft]
    exact ⟨hother, List.mem_append_right _ (List.mem_singleton.2 rfl)⟩
  · rw [hzero c hc]
    exact he.balanced.nextTag.symm

/-- Of the three reads, the one with the tag one comes before the file is read to its end, whose
    two bytes are reported as one. -/
theorem own_completion_iff_served : Reached [⟨(accept (readFile Rivals.tree) (.ofBytes [])
      Rivals.reads).completions, []⟩] Rivals.handedIn ∧
    readFile Rivals.tree ⟨0, 0, 2⟩ (.ofBytes []) = .finished (.ok 2) (.ofBytes [104, 105]) ∧
    ¬Rivals.handedIn.TagFree ∧ Rivals.served.engine.waiting ≠ [] := by
  have htaken : ¬Rivals.handedIn.TagFree := fun h =>
    h ⟨1, .ok 1⟩ (List.mem_cons_of_mem _ List.mem_cons_self) rfl
  refine ⟨Rivals.reached_handedIn, rfl, htaken, fun hnil => htaken ?_⟩
  exact (Reached.own_completion_iff Rivals.reached_handedIn 2
    (show readFile Rivals.tree ⟨0, 0, 2⟩ (.ofBytes []) = .finished (.ok 2) (.ofBytes [104, 105]) from rfl)).1.1 hnil

/-- A request is given the result of another, and its own completion still waits. -/
theorem foreign_completion_taken :
    Reached [⟨(accept (readFile Rivals.tree) (.ofBytes []) Rivals.reads).completions, []⟩] Rivals.handedIn ∧
    readFile Rivals.tree ⟨0, 0, 2⟩ (.ofBytes []) = .finished (.ok 2) (.ofBytes [104, 105]) ∧
    Rivals.served.result = .ok 1 ∧ Rivals.served.engine.waiting = [⟨1, .ok 2⟩] :=
  ⟨Rivals.reached_handedIn, rfl, rfl, rfl⟩

end FileServer.Engine
