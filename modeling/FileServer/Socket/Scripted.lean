import FileServer.Socket

/-!
# A sink that follows a script

Each offer takes the next line of a script, which says how many bytes are taken at
most or how the offer fails. When the script has run out, everything is taken.
-/

namespace FileServer

/-- One line of a script. -/
inductive ScriptLine
  /-- At most so many bytes are taken. -/
  | take (limit : Nat)
  | fail (kind : ErrorKind)
  deriving DecidableEq, Repr

/-- The lines still to come and what has happened. -/
structure ScriptedSink where
  script : List ScriptLine
  /-- How many offers were made. -/
  calls : Nat := 0
  /-- All that was taken. -/
  taken : Bytes := []
  deriving Repr

namespace ScriptedSink

/-- How an offer fails that the script lets fail. -/
def failure : ErrorKind → Sending
  | .wouldBlock => .wouldBlock
  | .interrupted => .interrupted
  | kind => .failed (.own kind "scripted")

/-- Offers bytes. -/
def send (s : ScriptedSink) (bs : Bytes) : Sending × ScriptedSink :=
  match s.script with
  | [] => (.took bs.length, { s with calls := s.calls + 1, taken := s.taken ++ bs })
  | .take limit :: script =>
    let part := bs.take limit
    (.took part.length, ⟨script, s.calls + 1, s.taken ++ part⟩)
  | .fail kind :: script => (failure kind, ⟨script, s.calls + 1, s.taken⟩)

theorem failure_ne_took (kind : ErrorKind) (n : Nat) : failure kind ≠ .took n := by
  cases kind <;> simp [failure]

instance : Sink ScriptedSink where
  send := send
  fault _ := none
  signals s := s.script.length
  send_took_le s bs n := by
    simp only [send]
    split
    · rintro ⟨⟩
      exact Nat.le_refl _
    · rintro ⟨⟩
      simp only [List.length_take]
      omega
    · intro h
      exact absurd h (failure_ne_took _ _)
  send_signals s bs := by
    simp only [send]
    split
    · simp
    · simp
    · rename_i h
      simp [h]

end ScriptedSink

end FileServer
