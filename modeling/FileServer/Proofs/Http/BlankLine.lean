import FileServer.Http.ResponseHeader
import Mathlib.Data.List.Infix

/-!
# Blank lines

The search for a blank line finds one wherever there is one
(`isSome_findBlankLine?_iff`). Bytes that grow at their end need not be searched
from the front again: a blank line that the old bytes did not hold ends among the
new ones (`length_lt_of_append_eq`), so it begins at most three bytes before
them (`infix_drop_append_iff`).

It is the first blank line that is found (`le_of_findBlankLine?`). Of text that is written
line by line this is the first empty line: the search goes past a line that shows something
(`blankLineFrom_line`), and past the line end behind it if another such line follows
(`blankLineFrom_lineEnd_line`).
-/

namespace FileServer

theorem isSome_blankLineFrom_iff {start : Nat} {bs : Bytes} :
    (blankLineFrom start bs).isSome ↔ blankLine <:+: bs := by
  induction bs generalizing start with
  | nil => simp [blankLineFrom, blankLine]
  | cons b bs ih =>
    rw [blankLineFrom, List.infix_cons_iff, ← List.isPrefixOf_iff_prefix]
    split
    · rename_i h
      simp [h]
    · rename_i h
      simp [h, ih]

/-- A blank line is found exactly where there is one. -/
theorem isSome_findBlankLine?_iff {bs : Bytes} :
    (findBlankLine? bs).isSome ↔ blankLine <:+: bs := isSome_blankLineFrom_iff

/-- A blank line that the old bytes do not hold ends among the new ones. -/
theorem length_lt_of_append_eq {old new before after : Bytes} (hold : ¬blankLine <:+: old)
    (h : old ++ new = before ++ blankLine ++ after) : after.length < new.length := by
  by_contra hle
  push Not at hle
  -- Otherwise the new bytes lie behind the blank line, which the old ones hold.
  obtain ⟨rest, rfl⟩ : new <:+ after :=
    List.suffix_of_suffix_length_le (h ▸ List.suffix_append old new)
      (List.suffix_append _ after) hle
  rw [← List.append_assoc, List.append_cancel_right_eq] at h
  exact hold ⟨before, rest, h.symm⟩

/-- Where the old bytes hold no blank line, it is enough to search the new ones
    and the last three of the old. -/
theorem infix_drop_append_iff {old new : Bytes} (hold : ¬blankLine <:+: old) :
    blankLine <:+: (old ++ new).drop (old.length - 3) ↔ blankLine <:+: old ++ new := by
  refine ⟨fun h => h.trans (List.drop_suffix _ _).isInfix, fun ⟨before, after, h⟩ => ?_⟩
  have hlt := length_lt_of_append_eq hold h.symm
  have hlen := congrArg List.length h
  simp only [List.length_append, blankLine, List.length_cons, List.length_nil] at hlen
  refine ⟨before.drop (old.length - 3), after, ?_⟩
  rw [← h, List.append_assoc, List.append_assoc, List.drop_append_of_le_length (by omega)]

/-! ### The first blank line -/

variable {start : Nat} {line rest : Bytes}

theorem blankLineFrom_blankLine (start : Nat) (rest : Bytes) :
    blankLineFrom start (blankLine ++ rest) = some start :=
  if_pos (List.isPrefixOf_iff_prefix.2 (List.prefix_append blankLine rest))

theorem le_of_blankLineFrom {bs before after : Bytes} {n : Nat}
    (h : blankLineFrom start bs = some n) (hbs : bs = before ++ blankLine ++ after) :
    n ≤ start + before.length := by
  induction before generalizing start bs with
  | nil =>
    subst hbs
    rw [List.nil_append, blankLineFrom_blankLine] at h
    exact Nat.le_of_eq (Option.some.inj h).symm
  | cons b before ih =>
    subst hbs
    rw [List.cons_append, List.cons_append, blankLineFrom] at h
    split at h
    · rw [← Option.some.inj h]
      exact Nat.le_add_right _ _
    · have hle := ih h rfl
      rw [List.length_cons]
      omega

/-- No blank line begins before the one that is found. -/
theorem le_of_findBlankLine? {bs before after : Bytes} {n : Nat} (h : findBlankLine? bs = some n)
    (hbs : bs = before ++ blankLine ++ after) : n ≤ before.length := by
  have hle := le_of_blankLineFrom h hbs
  rwa [Nat.zero_add] at hle

theorem blankLineFrom_cons_of_not_prefix {b : UInt8} {bs : Bytes} (h : ¬blankLine <+: b :: bs) :
    blankLineFrom start (b :: bs) = blankLineFrom (start + 1) bs :=
  if_neg fun hpre => h (List.isPrefixOf_iff_prefix.1 hpre)

/-- No blank line begins inside a line. -/
theorem blankLineFrom_line (h : 13 ∉ line) :
    blankLineFrom start (line ++ rest) = blankLineFrom (start + line.length) rest := by
  induction line generalizing start with
  | nil => rfl
  | cons b line ih =>
    obtain ⟨hb, hline⟩ := not_or.1 (List.mem_cons.not.1 h)
    rw [List.cons_append, blankLineFrom_cons_of_not_prefix, ih hline, List.length_cons,
      Nat.add_assoc, Nat.add_comm 1]
    exact fun hpre => hb (List.cons_prefix_cons.1 hpre).1

/-- No blank line begins between two lines that show something. -/
theorem blankLineFrom_lineEnd_line (hne : line ≠ []) (h : 13 ∉ line) :
    blankLineFrom start (lineEnd ++ (line ++ rest)) =
      blankLineFrom (start + 2 + line.length) rest := by
  obtain ⟨b, behind, rfl⟩ := List.exists_cons_of_ne_nil hne
  have hb : 13 ≠ b := fun hb => h (hb ▸ List.mem_cons_self)
  have hreturn : ¬blankLine <+: 13 :: 10 :: (b :: behind ++ rest) := fun hpre => by
    simp [blankLine, List.cons_prefix_cons, hb] at hpre
  have hfeed : ¬blankLine <+: 10 :: (b :: behind ++ rest) := fun hpre => by
    simp [blankLine, List.cons_prefix_cons] at hpre
  calc blankLineFrom start (13 :: 10 :: (b :: behind ++ rest))
      = blankLineFrom (start + 1) (10 :: (b :: behind ++ rest)) :=
        blankLineFrom_cons_of_not_prefix hreturn
    _ = blankLineFrom (start + 2) (b :: behind ++ rest) := blankLineFrom_cons_of_not_prefix hfeed
    _ = blankLineFrom (start + 2 + (b :: behind).length) rest := blankLineFrom_line h

end FileServer
