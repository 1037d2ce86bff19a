/-!
# Paths

A path is a text whose pieces stand between slashes. `Path.splitSlash` gives all
the pieces, empty ones included; `Path.components` keeps those that lead
somewhere, that is, neither the empty piece nor the single dot. `Path.join` puts
a path behind a directory: an absolute one stands for itself, and a slash is
written between the two only where none stands yet.
-/

namespace FileServer.Path

/-- The pieces of a text between its slashes, of which there is one more than
    there are slashes. -/
def splitSlash : List Char → List (List Char)
  | [] => [[]]
  | c :: cs =>
    if c = '/' then [] :: splitSlash cs
    else match splitSlash cs with
      | [] => [[c]]
      | piece :: pieces => (c :: piece) :: pieces

/-- The single dot, which leads nowhere. -/
abbrev here : List Char := ['.']

/-- The two dots, which lead out of a directory. -/
abbrev parent : List Char := ['.', '.']

/-- The pieces that lead somewhere. -/
def components (cs : List Char) : List (List Char) :=
  (splitSlash cs).filter fun piece => piece != [] && piece != here

/-- The path `rel` as seen from the directory `base`. -/
def joinChars (base rel : List Char) : List Char :=
  if rel.head? = some '/' then rel
  else if base = [] ∨ base.getLast? = some '/' then base ++ rel
  else base ++ '/' :: rel

/-- The path `rel` as seen from the directory `base`. -/
def join (base rel : String) : String := String.ofList (joinChars base.toList rel.toList)

theorem splitSlash_ne_nil (cs : List Char) : splitSlash cs ≠ [] := by
  cases cs with
  | nil => simp [splitSlash]
  | cons c cs =>
    simp only [splitSlash]
    split
    · simp
    · split <;> simp

/-- No piece holds a slash. -/
theorem slash_not_mem_of_mem_splitSlash {cs piece : List Char} (h : piece ∈ splitSlash cs) :
    '/' ∉ piece := by
  induction cs generalizing piece with
  | nil => simp_all [splitSlash]
  | cons c cs ih =>
    simp only [splitSlash] at h
    split at h
    · rcases List.mem_cons.1 h with rfl | h
      · simp
      · exact ih h
    · rename_i hc
      split at h
      · rw [List.mem_singleton.1 h, List.mem_singleton]
        exact Ne.symm hc
      · rename_i first pieces heq
        rcases List.mem_cons.1 h with rfl | h
        · have := ih (heq ▸ List.mem_cons_self : first ∈ splitSlash cs)
          simp [this, Ne.symm hc]
        · exact ih (heq ▸ List.mem_cons_of_mem _ h)

/-- A piece without a slash is all there is. -/
theorem splitSlash_of_not_mem {piece : List Char} (h : '/' ∉ piece) :
    splitSlash piece = [piece] := by
  induction piece with
  | nil => rfl
  | cons c cs ih =>
    simp only [List.mem_cons, not_or] at h
    simp [splitSlash, Ne.symm h.1, ih h.2]

end FileServer.Path
