import FileServer.Proofs.Server.Registry
import FileServer.Server.Accept
import Mathlib.Data.List.Nodup
import Mathlib.Data.List.Perm.Subperm

/-!
# New tokens and descriptors

A search for a free token looks at one after the other, in a circle, and ends at the first
free one that it comes to (`Server.freeFrom_spec`). Of two more tokens than there are
connections one is free, because they differ from each other and only those of the
connections and that of the place where the server listens are not
(`Server.exists_isFree`). So the search finds one, unless the connections have taken
all tokens there are.
-/

namespace FileServer.Server

variable {S : Type} {used : List UInt64} {v : Server S}

theorem isFree_iff {token : UInt64} :
    isFree used token = true ↔ token ≠ listenerToken ∧ token ∉ used := by
  rw [isFree, Bool.and_eq_true, bne_iff_ne, Bool.not_eq_true', List.contains_eq_mem,
    decide_eq_false_iff_not]

/-- A number further on in the circle, counted from the next one. -/
theorem add_one_add_ofNat (token : UInt64) (n : Nat) :
    token + 1 + UInt64.ofNat n = token + UInt64.ofNat (n + 1) := by
  rw [UInt64.ofNat_add, UInt64.add_comm (UInt64.ofNat n), UInt64.add_assoc]
  rfl

/-- A search ends at the first free token that it comes to, if it comes to one. -/
theorem freeFrom_spec {rounds : Nat} {token : UInt64}
    (h : ∃ i < rounds, isFree used (token + UInt64.ofNat i) = true) :
    ∃ i < rounds, freeFrom used rounds token = token + UInt64.ofNat i ∧
      isFree used (token + UInt64.ofNat i) = true ∧
      ∀ j < i, isFree used (token + UInt64.ofNat j) = false := by
  induction rounds generalizing token with
  | zero =>
    obtain ⟨i, hi, -⟩ := h
    exact absurd hi (Nat.not_lt_zero i)
  | succ rounds ih =>
    have hzero : token + UInt64.ofNat 0 = token := UInt64.add_zero token
    rw [freeFrom]
    by_cases hfree : isFree used token = true
    · refine ⟨0, Nat.succ_pos rounds, ?_, ?_, fun j hj => absurd hj (Nat.not_lt_zero j)⟩
      · rw [if_pos hfree, hzero]
      · rw [hzero]
        exact hfree
    -- This token is not free, so the search goes on behind it.
    · obtain ⟨i, hi, hi'⟩ := h
      obtain ⟨k, rfl⟩ : ∃ k, i = k + 1 := by
        refine Nat.exists_eq_add_one.2 (Nat.pos_of_ne_zero ?_)
        rintro rfl
        rw [hzero] at hi'
        exact hfree hi'
      rw [← add_one_add_ofNat] at hi'
      obtain ⟨i, hi, heq, hisFree, hfirst⟩ := ih ⟨k, Nat.lt_of_succ_lt_succ hi, hi'⟩
      rw [add_one_add_ofNat] at heq hisFree
      refine ⟨i + 1, Nat.succ_lt_succ hi, ?_, hisFree, ?_⟩
      · rw [if_neg hfree, heq]
      · intro j hj
        cases j with
        | zero =>
          rw [hzero]
          exact Bool.eq_false_iff.2 hfree
        | succ j =>
          rw [← add_one_add_ofNat]
          exact hfirst j (Nat.lt_of_succ_lt_succ hj)

/-- The tokens that a search looks at differ from each other. -/
theorem nodup_candidates (token : UInt64) {n : Nat} (hn : n ≤ UInt64.size) :
    ((List.range n).map fun i => token + UInt64.ofNat i).Nodup := by
  refine List.Nodup.map_on ?_ List.nodup_range
  intro i hi j hj h
  rw [List.mem_range] at hi hj
  have hij : UInt64.ofNat i = UInt64.ofNat j := by
    rw [UInt64.add_comm, UInt64.add_comm token] at h
    exact (UInt64.add_left_inj token).1 h
  have hnat := congrArg UInt64.toNat hij
  rwa [UInt64.toNat_ofNat_of_lt' (Nat.lt_of_lt_of_le hi hn),
    UInt64.toNat_ofNat_of_lt' (Nat.lt_of_lt_of_le hj hn)] at hnat

/-- Among two more tokens than there are in use one is free. -/
theorem exists_isFree (token : UInt64) (hused : used.length + 1 < UInt64.size) :
    ∃ i < used.length + 2, isFree used (token + UInt64.ofNat i) = true := by
  by_contra hnone
  push Not at hnone
  -- Otherwise all of them are in use, or the one of the place where the server listens.
  have hsub : ((List.range (used.length + 2)).map fun i => token + UInt64.ofNat i) ⊆
      listenerToken :: used := by
    intro t ht
    obtain ⟨i, hi, rfl⟩ := List.mem_map.1 ht
    have hi' := hnone i (List.mem_range.1 hi)
    rw [Ne, isFree_iff, not_and_or, not_not, not_not] at hi'
    exact List.mem_cons.2 hi'
  have hlen := (List.Nodup.subperm (nodup_candidates token hused) hsub).length_le
  rw [List.length_map, List.length_range, List.length_cons] at hlen
  omega

/-- A token that is taken is free, if the connections have not taken all. -/
theorem isFree_takeToken (hroom : v.registry.length + 1 < UInt64.size) :
    isFree v.tokens v.takeToken.1 = true := by
  have hlen : v.tokens.length = v.registry.length := List.length_map _
  have hex : ∃ i < v.registry.length + 2,
      isFree v.tokens (v.nextToken + UInt64.ofNat i) = true := by
    rw [← hlen] at hroom ⊢
    exact exists_isFree v.nextToken hroom
  obtain ⟨i, -, htake, hfree, -⟩ := freeFrom_spec hex
  rw [takeToken, htake]
  exact hfree

/-- The next token is taken if it is free. -/
theorem takeToken_of_isFree (h : isFree v.tokens v.nextToken = true) :
    v.takeToken.1 = v.nextToken := by
  rw [takeToken, freeFrom, if_pos h]

theorem le_foldl_max {d n : Nat} {l : List Nat} (h : d ∈ l ∨ d ≤ n) : d ≤ l.foldl max n := by
  induction l generalizing n with
  | nil => exact h.resolve_left List.not_mem_nil
  | cons m l ih =>
    rw [List.foldl_cons]
    rcases h with h | h
    · rcases List.mem_cons.1 h with rfl | h
      · exact ih (.inr (Nat.le_max_right _ _))
      · exact ih (.inl h)
    · exact ih (.inr (Nat.le_trans h (Nat.le_max_left _ _)))

/-- A new descriptor is not open. -/
theorem freeDescriptor_notMem (v : Server S) : v.freeDescriptor ∉ v.descriptors := by
  intro h
  have hle : v.freeDescriptor ≤ v.descriptors.foldl max 0 := le_foldl_max (.inl h)
  exact Nat.not_succ_le_self _ hle

end FileServer.Server
