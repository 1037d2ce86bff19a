import FileServer.Proofs.Server.Tokens
import FileServer.Socket.Duplex

/-!
# Giving out tokens

A search for a free token goes on for as long as it takes (`Server.Seeks`): every round takes
the next number, wherever the numbers begin again from zero, and ends the search if this number
is free. Nothing in it counts the rounds. That it ends is due to the registry, which is smaller
than the circle of numbers, so that the rounds of `Server.takeToken` are always enough
(`Server.takeToken_ends`).

Between two searches connections come and go. The tokens that searches give out one after the
other (`Server.Allots`), whether they are in use by then or not, differ as long as the rounds
that were made are no more than there are numbers (`Server.Allots.nodup`).
-/

namespace FileServer.Server

variable {S : Type} {used : List UInt64} {next next' token : UInt64} {rounds : Nat}

/-- A search for a free token, round after round: the token that it ends with, and the number
    with which the next search begins. -/
inductive Seeks (used : List UInt64) : UInt64 → Nat → UInt64 → UInt64 → Prop
  | ends {next : UInt64} : isFree used next = true → Seeks used next 1 next (next + 1)
  | passes {next token next' : UInt64} {rounds : Nat} : isFree used next = false →
      Seeks used (next + 1) rounds token next' → Seeks used next (rounds + 1) token next'

/-- The rounds of a search tell how far it went, and where the next one begins. -/
theorem Seeks.went (h : Seeks used next rounds token next') : ∃ i, rounds = i + 1 ∧
    token = next + UInt64.ofNat i ∧ next' = next + UInt64.ofNat rounds := by
  induction h with
  | ends hfree => exact ⟨0, rfl, (UInt64.add_zero _).symm, rfl⟩
  | passes hused _ ih =>
    obtain ⟨i, rfl, htoken, hnext⟩ := ih
    rw [add_one_add_ofNat] at htoken hnext
    exact ⟨i + 1, rfl, htoken, hnext⟩

/-- A search ends at the first free token. -/
theorem seeks_of_first {i : Nat} (hfree : isFree used (next + UInt64.ofNat i) = true)
    (hfirst : ∀ j < i, isFree used (next + UInt64.ofNat j) = false) :
    Seeks used next (i + 1) (next + UInt64.ofNat i) (next + UInt64.ofNat i + 1) := by
  induction i generalizing next with
  | zero =>
    have hzero : next + UInt64.ofNat 0 = next := UInt64.add_zero next
    rw [hzero] at hfree ⊢
    exact .ends hfree
  | succ i ih =>
    have hused : isFree used next = false := by
      have h := hfirst 0 (Nat.succ_pos i)
      rwa [show next + UInt64.ofNat 0 = next from UInt64.add_zero next] at h
    rw [← add_one_add_ofNat] at hfree ⊢
    refine .passes hused (ih hfree fun j hj => ?_)
    rw [add_one_add_ofNat]
    exact hfirst (j + 1) (Nat.succ_lt_succ hj)

/-- Searches one after the other, each beginning where the one before it ended, with whatever
    connections there are by then: how many rounds each of them made, and the token it gave. -/
inductive Allots (S : Type) : UInt64 → List (Nat × UInt64) → UInt64 → Prop
  | none {next : UInt64} : Allots S next [] next
  | more {v : Server S} {rounds : Nat} {next' : UInt64} {given : List (Nat × UInt64)} :
      Seeks v.tokens v.nextToken rounds v.takeToken.1 v.takeToken.2.nextToken →
      Allots S v.takeToken.2.nextToken given next' →
      Allots S v.nextToken ((rounds, v.takeToken.1) :: given) next'

/-- The rounds of some searches together. -/
def roundsOf : List (Nat × UInt64) → Nat
  | [] => 0
  | (rounds, _) :: given => rounds + roundsOf given

/-- What searches give lies behind where they begin, by fewer steps than they made rounds. -/
theorem Allots.exists_steps {given : List (Nat × UInt64)} (h : Allots S next given next') :
    ∀ token ∈ given.map (·.2), ∃ n < roundsOf given, token = next + UInt64.ofNat n := by
  induction h with
  | none => exact fun token htoken => absurd htoken List.not_mem_nil
  | more hseeks _ ih =>
    obtain ⟨i, rfl, htoken, hnext⟩ := hseeks.went
    intro token hmem
    rw [List.map_cons] at hmem
    rw [roundsOf]
    rcases List.mem_cons.1 hmem with rfl | hmem
    · exact ⟨i, Nat.lt_of_lt_of_le (Nat.lt_succ_self i) (Nat.le_add_right _ _), htoken⟩
    · obtain ⟨n, hn, heq⟩ := ih token hmem
      rw [hnext, UInt64.add_assoc, ← UInt64.ofNat_add] at heq
      exact ⟨i + 1 + n, Nat.add_lt_add_left hn _, heq⟩

/-- Before the numbers have been gone through all the way round, no token is given twice. -/
theorem Allots.nodup {given : List (Nat × UInt64)} (h : Allots S next given next')
    (hround : roundsOf given ≤ UInt64.size) : (given.map (·.2)).Nodup := by
  induction h with
  | none => exact List.nodup_nil
  | more hseeks hrest ih =>
    obtain ⟨i, rfl, htoken, hnext⟩ := hseeks.went
    rw [roundsOf] at hround
    rw [List.map_cons, List.nodup_cons]
    refine ⟨fun hmem => ?_, ih (Nat.le_trans (Nat.le_add_left _ _) hround)⟩
    -- The later token lies more steps behind the same number, but not a whole round.
    obtain ⟨n, hn, heq⟩ := hrest.exists_steps _ hmem
    rw [hnext, UInt64.add_assoc, ← UInt64.ofNat_add, htoken] at heq
    have hsteps : UInt64.ofNat i = UInt64.ofNat (i + 1 + n) := (UInt64.add_right_inj _).1 heq
    have hbound : i + 1 + n < UInt64.size :=
      Nat.lt_of_lt_of_le (Nat.add_lt_add_left hn _) hround
    have hnat := congrArg UInt64.toNat hsteps
    rw [UInt64.toNat_ofNat_of_lt' hbound, UInt64.toNat_ofNat_of_lt' (by omega)] at hnat
    omega

/-- With fewer connections than there are numbers besides zero, a search ends after at most two
    rounds more than there are connections, at the first token in the circle that is free, and
    leaves the number behind it for the next search. Searches one after the other never give
    the same token twice before they have gone all the way round. -/
theorem takeToken_ends (v : Server S) :
    (v.registry.length + 1 < UInt64.size → ∃ i < v.registry.length + 2,
      Seeks v.tokens v.nextToken (i + 1) v.takeToken.1 v.takeToken.2.nextToken ∧
      v.takeToken.1 ≠ listenerToken ∧ v.takeToken.1 ∉ v.tokens ∧
      v.takeToken.1 = v.nextToken + UInt64.ofNat i ∧
      (∀ j < i, v.nextToken + UInt64.ofNat j = listenerToken ∨
        v.nextToken + UInt64.ofNat j ∈ v.tokens) ∧
      v.takeToken.2 = { v with nextToken := v.takeToken.1 + 1 }) ∧
    ∀ given next', Allots S v.nextToken given next' → roundsOf given ≤ UInt64.size →
      (given.map (·.2)).Nodup := by
  refine ⟨fun hroom => ?_, fun given next' hgiven hround => hgiven.nodup hround⟩
  have hlen : v.tokens.length = v.registry.length := List.length_map _
  -- The search stops at the first free one of the candidates, the one with the number `i`.
  obtain ⟨i, hi, htake, hfree, hfirst⟩ := freeFrom_spec (exists_isFree v.nextToken (hlen ▸ hroom))
  rw [hlen] at hi htake
  have htoken : v.takeToken.1 = v.nextToken + UInt64.ofNat i := htake
  have hnext : v.takeToken.2.nextToken = v.nextToken + UInt64.ofNat i + 1 :=
    congrArg (· + 1) htake
  obtain ⟨hlistener, hunused⟩ := isFree_iff.1 hfree
  rw [htoken, hnext]
  refine ⟨i, hi, seeks_of_first hfree hfirst, hlistener, hunused, rfl, fun j hj => ?_, ?_⟩
  · -- Those before it are the listener's or taken.
    have hused := hfirst j hj
    by_contra h
    rw [not_or] at h
    rw [isFree_iff.2 h] at hused
    exact Bool.noConfusion hused
  · rw [← htoken]
    rfl

/-- A server whose numbers are about to begin again, with connections under the last number
    and under the first one. -/
def crowded : Server Duplex where
  settings := {}
  endpoint := ⟨Network.anyAddress, 8888⟩
  poller := ⟨[]⟩
  engine := {}
  registry := [18446744073709551615, 1].map fun token =>
    (token, ⟨{ token := token, peer := "10.0.0.1:4000" }, {}, 0, .read⟩)
  nextToken := 18446744073709551615

theorem seeks_crowded : Seeks crowded.tokens crowded.nextToken 4 crowded.takeToken.1
    crowded.takeToken.2.nextToken :=
  .passes rfl (.passes rfl (.passes rfl (.ends rfl)))

/-- The last number is in use, zero is not for connections, and the first number is in use too:
    the search takes four rounds. The one behind it gives another token at once. -/
theorem takeToken_ends_wrapped : crowded.registry.length + 1 < UInt64.size ∧
    (∃ i < 4, crowded.takeToken.1 = 18446744073709551615 + UInt64.ofNat i) ∧
    ∃ next', Allots Duplex crowded.nextToken [(4, 2), (1, 3)] next' ∧
      roundsOf [(4, 2), (1, 3)] ≤ UInt64.size ∧
        ([(4, 2), (1, 3)].map (·.2) : List UInt64).Nodup := by
  have hroom : crowded.registry.length + 1 < UInt64.size := by decide
  have hsecond : Seeks crowded.takeToken.2.tokens crowded.takeToken.2.nextToken 1
      crowded.takeToken.2.takeToken.1 crowded.takeToken.2.takeToken.2.nextToken := .ends rfl
  have hgiven : Allots Duplex crowded.nextToken [(4, 2), (1, 3)] 4 :=
    .more seeks_crowded (.more hsecond .none)
  have hround : roundsOf [(4, 2), (1, 3)] ≤ UInt64.size := by decide
  obtain ⟨hends, hnodup⟩ := takeToken_ends crowded
  obtain ⟨i, hi, -, -, -, htoken, -⟩ := hends hroom
  exact ⟨hroom, ⟨i, hi, htoken⟩, 4, hgiven, hround, hnodup _ _ hgiven hround⟩

end FileServer.Server
