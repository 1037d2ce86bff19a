import FileServer.Server
import Mathlib.Data.List.Nodup

/-!
# The registry as a map

The registry is a list of entries by token. `Registry.replace` puts another entry in the
place of the one under a token, or takes it away; where every token occurs once, this is all
that a server does to the entry of one connection, and it leaves the others alone
(`Registry.lookup_replace_of_ne`). What is done under two tokens can be done in either
order (`Registry.replace_comm`).
-/

namespace FileServer

/-- Where every key occurs once, what is listed under a key is what is found there. -/
theorem lookup_of_mem {α β : Type} [BEq α] [LawfulBEq α] {l : List (α × β)} {key : α} {value : β}
    (hn : (l.map (·.1)).Nodup) (h : (key, value) ∈ l) : l.lookup key = some value := by
  induction l with
  | nil => exact absurd h List.not_mem_nil
  | cons r l ih =>
    obtain ⟨hr, hl⟩ := List.nodup_cons.1 hn
    rw [List.lookup_cons]
    rcases List.mem_cons.1 h with rfl | h
    · rw [beq_self_eq_true]
    · have hne : key ≠ r.1 := by
        rintro rfl
        exact hr (List.mem_map.2 ⟨_, h, rfl⟩)
      rw [beq_false_of_ne hne]
      exact ih hl h

/-- Entries by token. -/
abbrev Registry (S : Type) := List (UInt64 × Entry S)

namespace Registry

variable {S : Type} {token other : UInt64} {o o' : Option (Entry S)} {e e' : Entry S}
  {l : Registry S}

/-- The registry with something else under a token: another entry, or none. -/
def replace (token : UInt64) (o : Option (Entry S)) (l : Registry S) : Registry S :=
  l.filterMap fun r => if r.1 = token then o.map (token, ·) else some r

/-- The tokens of a registry. -/
def tokens (l : Registry S) : List UInt64 := l.map (·.1)

theorem replace_cons_of_eq (h : token = other) :
    replace token o ((other, e) :: l) = (o.map (token, ·)).toList ++ replace token o l := by
  subst h
  cases o with
  | none => simp [replace]
  | some e' => simp [replace]

theorem replace_cons_of_ne {r : UInt64 × Entry S} (h : r.1 ≠ token) :
    replace token o (r :: l) = r :: replace token o l := by
  simp [replace, h]

/-- Under a token that does not occur nothing is replaced. -/
theorem replace_of_notMem (h : token ∉ tokens l) : replace token o l = l := by
  induction l with
  | nil => rfl
  | cons r l ih =>
    obtain ⟨hne, hl⟩ := not_or.1 (fun hmem => h (List.mem_cons.2 hmem))
    rw [replace_cons_of_ne (Ne.symm hne), ih hl]

theorem map_eq_replace :
    (l.map fun r => if r.1 = token then (token, e) else r) = replace token (some e) l := by
  rw [replace, ← List.filterMap_eq_map]
  refine List.filterMap_congr fun r _ => ?_
  by_cases h : r.1 = token
  · simp [h]
  · simp [h]

theorem filter_eq_replace : (l.filter fun r => r.1 ≠ token) = replace token none l := by
  rw [replace, ← List.filterMap_eq_filter]
  refine List.filterMap_congr fun r _ => ?_
  by_cases h : r.1 = token
  · simp [h, Option.guard]
  · simp [h, Option.guard]

/-- What is replaced twice is replaced by the last one. -/
theorem replace_replace : replace token o (replace token (some e) l) = replace token o l := by
  induction l with
  | nil => rfl
  | cons r l ih =>
    obtain ⟨other, e'⟩ := r
    by_cases h : token = other
    · rw [replace_cons_of_eq h, replace_cons_of_eq h, Option.map_some, Option.toList_some,
        List.singleton_append, replace_cons_of_eq rfl, ih]
    · rw [replace_cons_of_ne (Ne.symm h), replace_cons_of_ne (Ne.symm h),
        replace_cons_of_ne (Ne.symm h), ih]

/-- What is done under two tokens is done in either order. -/
theorem replace_comm (h : token ≠ other) :
    replace token o (replace other o' l) = replace other o' (replace token o l) := by
  rw [replace, replace, List.filterMap_filterMap, replace, replace, List.filterMap_filterMap]
  refine List.filterMap_congr fun r _ => ?_
  by_cases h₁ : r.1 = token
  · cases o <;> simp [h₁, h]
  · by_cases h₂ : r.1 = other
    · cases o' <;> simp [h₂, Ne.symm h]
    · simp [h₁, h₂]

/-- Where what is shown of an entry does not change, nothing is seen of replacing it. -/
theorem map_replace_some {α : Type} {f : UInt64 × Entry S → α}
    (h : ∀ r ∈ l, r.1 = token → f (token, e) = f r) : (replace token (some e) l).map f = l.map f := by
  rw [← map_eq_replace, List.map_map]
  refine List.map_congr_left fun r hr => ?_
  by_cases hr' : r.1 = token
  · simp [hr', h r hr hr']
  · simp [hr']

/-- Of what is shown of the entries, at most something is missing. -/
theorem map_replace_sublist {α : Type} {f : UInt64 × Entry S → α}
    (h : ∀ r ∈ l, r.1 = token → ∀ e ∈ o, f (token, e) = f r) :
    ((replace token o l).map f).Sublist (l.map f) := by
  cases o with
  | none =>
    rw [← filter_eq_replace]
    exact List.filter_sublist.map f
  | some e => rw [map_replace_some fun r hr hr' => h r hr hr' e rfl]

/-- The entries of a registry are the old ones under other tokens and the new one. -/
theorem mem_replace {r : UInt64 × Entry S} (h : r ∈ replace token o l) :
    r ∈ l ∧ r.1 ≠ token ∨ r.1 = token ∧ o = some r.2 := by
  obtain ⟨r', hr', h⟩ := List.mem_filterMap.1 h
  split at h
  · obtain ⟨e, he, rfl⟩ := Option.map_eq_some_iff.1 h
    exact .inr ⟨rfl, he⟩
  · rename_i hne
    obtain rfl := Option.some.inj h
    exact .inl ⟨hr', hne⟩

theorem notMem_tokens_replace_none : token ∉ tokens (replace token none l) := by
  intro h
  obtain ⟨r, hr, rfl⟩ := List.mem_map.1 h
  rcases mem_replace hr with ⟨-, hne⟩ | ⟨-, hnone⟩
  · exact hne rfl
  · cases hnone

/-- Under other tokens stays what was there. -/
theorem lookup_replace_of_ne (h : other ≠ token) :
    (replace token o l).lookup other = l.lookup other := by
  induction l with
  | nil => rfl
  | cons r l ih =>
    obtain ⟨t, e⟩ := r
    by_cases ht : token = t
    · subst ht
      have hne : (other == token) = false := beq_false_of_ne h
      rw [replace_cons_of_eq rfl]
      cases o <;> simp [List.lookup_cons, ih, hne]
    · rw [replace_cons_of_ne (Ne.symm ht), List.lookup_cons, List.lookup_cons, ih]

/-- A token under which there is nothing does not occur. -/
theorem lookup_eq_none : l.lookup token = none ↔ token ∉ tokens l := by
  rw [List.lookup_eq_none_iff, tokens, List.mem_map]
  constructor
  · rintro h ⟨r, hr, rfl⟩
    exact absurd (h r hr) (by simp)
  · intro h r hr
    exact bne_iff_ne.2 fun heq => h ⟨r, hr, heq.symm⟩

theorem mem_of_lookup (h : l.lookup token = some e) : (token, e) ∈ l := by
  obtain ⟨front, back, rfl, -⟩ := List.lookup_eq_some_iff.1 h
  exact List.mem_append_right _ List.mem_cons_self

/-- Under the token itself is what was put there. -/
theorem lookup_replace_self (h : token ∈ tokens l) : (replace token o l).lookup token = o := by
  cases o with
  | none => exact lookup_eq_none.2 notMem_tokens_replace_none
  | some e =>
    induction l with
    | nil => exact absurd h List.not_mem_nil
    | cons r l ih =>
      obtain ⟨t, e'⟩ := r
      by_cases ht : token = t
      · rw [replace_cons_of_eq ht]
        exact List.lookup_cons_self
      · rw [replace_cons_of_ne (Ne.symm ht), List.lookup_cons, beq_false_of_ne ht]
        exact ih ((List.mem_cons.1 h).resolve_left ht)

/-- To put an entry where it is changes nothing. -/
theorem replace_self (hn : (tokens l).Nodup) (h : l.lookup token = some e) :
    replace token (some e) l = l := by
  rw [← map_eq_replace]
  refine (List.map_congr_left fun r hr => ?_).trans (List.map_id l)
  by_cases hr' : r.1 = token
  · rw [if_pos hr', List.inj_on_of_nodup_map hn hr (mem_of_lookup h) hr']
    rfl
  · exact if_neg hr'

end Registry

end FileServer
