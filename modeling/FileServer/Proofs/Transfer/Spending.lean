import FileServer.Proofs.Transfer.Delivery
import Mathlib.Logic.Function.Iterate

/-!
# What a request costs an engine

Where no completion waits, a request of the engine's own leaves a trace in its counters only:
a tag is used up, and one more request was submitted and completed unless it was refused
(`Engine.spend`). What is spent can be spent in any order (`Engine.spend_comm`), and what
a request comes to does not depend on it (`Engine.runOne_of_finished`). So two engines in which
no completion waits can take the place of each other (`Engine.Alike`).
-/

namespace FileServer.Engine

/-- The tag that comes so many tags later; zero is left out. -/
def laterTag (tags : Nat) (tag : UInt64) : UInt64 :=
  (fun tag => if tag + 1 = 0 then 1 else tag + 1)^[tags] tag

/-- The engine after so many tags were used up and so many requests were carried out. -/
def spend (e : Engine) (tags requests : Nat) : Engine :=
  { e with
    nextTag := laterTag tags e.nextTag
    submitted := e.submitted + requests
    completed := e.completed + requests }

/-- Two engines that were given the same to do since no completion waited in either. -/
structure Alike (e e' f f' : Engine) : Prop where
  quiet : e.waiting = []
  quiet' : e'.waiting = []
  spent : ∃ tags requests, f = e.spend tags requests ∧ f' = e'.spend tags requests

variable {e e' f f' : Engine}

theorem spend_spend (e : Engine) (tags tags' requests requests' : Nat) :
    (e.spend tags requests).spend tags' requests' = e.spend (tags' + tags) (requests + requests') := by
  rw [spend, spend, spend, laterTag, laterTag, laterTag, Function.iterate_add_apply,
    Nat.add_assoc, Nat.add_assoc]

/-- What is spent can be spent in any order. -/
theorem spend_comm (e : Engine) (tags tags' requests requests' : Nat) :
    (e.spend tags requests).spend tags' requests' =
      (e.spend tags' requests').spend tags requests := by
  rw [spend_spend, spend_spend, Nat.add_comm tags, Nat.add_comm requests]

variable {R W : Type} {carry : R → W → Verdict W} {w w' : W} {transfer : R} {n : Nat}

/-- A request that is refused uses up a tag. -/
theorem runOne_of_refused {error : SystemError}
    (h : carry transfer w = .refused error) :
    e.runOne carry w transfer n = ⟨.error error, e.spend 1 0, w, []⟩ := by
  simp [runOne, submit, accept, h, enqueue, takeTag, spend, laterTag]

/-- A request that is carried out uses up a tag and is counted. -/
theorem runOne_of_finished {result : Except SystemError Nat} (he : e.waiting = [])
    (h : carry transfer w = .finished result w') :
    e.runOne carry w transfer n =
      ⟨result, e.spend 1 1, w', [submittedNote e.nextTag n]⟩ := by
  simp [runOne, submit, accept, h, enqueue, takeTag, he, await, spend, laterTag]

/-- One request more does not tell two engines from each other. -/
theorem Alike.runOne (h : Alike e e' f f') (carry : R → W → Verdict W) (w : W) (transfer : R)
    (n : Nat) :
    (f'.runOne carry w transfer n).result = (f.runOne carry w transfer n).result ∧
      (f'.runOne carry w transfer n).world = (f.runOne carry w transfer n).world ∧
      Alike e e' (f.runOne carry w transfer n).engine (f'.runOne carry w transfer n).engine := by
  obtain ⟨hquiet, hquiet', tags, requests, rfl, rfl⟩ := h
  have hwaiting : (e.spend tags requests).waiting = [] := hquiet
  have hwaiting' : (e'.spend tags requests).waiting = [] := hquiet'
  cases hverdict : carry transfer w with
  | refused error =>
    rw [runOne_of_refused hverdict, runOne_of_refused hverdict]
    exact ⟨rfl, rfl, hquiet, hquiet', _, _, spend_spend .., spend_spend ..⟩
  | finished result w' =>
    rw [runOne_of_finished hwaiting hverdict, runOne_of_finished hwaiting' hverdict]
    exact ⟨rfl, rfl, hquiet, hquiet', _, _, spend_spend .., spend_spend ..⟩

/-- What two engines were given to do, each could be given after the other. -/
theorem Alike.swap {g g' : Engine} (h : Alike e f g g') (h' : Alike e g f f') : g' = f' := by
  obtain ⟨-, -, tags, requests, rfl, rfl⟩ := h
  obtain ⟨-, -, tags', requests', rfl, rfl⟩ := h'
  rw [spend_comm]

end FileServer.Engine
