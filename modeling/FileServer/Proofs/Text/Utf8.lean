import FileServer.Text.Utf8
import Mathlib.Data.List.Basic

/-!
# Text that is written and read back

Every text is read back from its UTF-8 form (`Utf8.decode?_ofChars`), so no two texts have the
same form. A sequence begins with a byte that announces how many continuation bytes follow,
and `Utf8.next?_of_lead` says what is read from a sequence that keeps to its announcement.

An ASCII character is one byte (`Bytes.encode_of_lt`), and all bytes of any other character are
outside ASCII (`Bytes.le_of_mem_encode`), so what is said of the bytes of a text is said of its
characters.
-/

namespace FileServer

namespace Utf8

theorem toNat_lt (c : Char) : c.toNat < 0x110000 := by
  rcases c.valid with h | h
  · exact Nat.lt_trans h (by decide)
  · exact h.2

/-- The number of a character is a scalar value. -/
theorem scalar?_toNat {c : Char} {least : Nat} (h : least ≤ c.toNat) :
    scalar? least c.toNat = some c := by
  have hvalid : c.toNat.isValidChar := c.valid
  rw [scalar?, if_neg (Nat.not_lt.2 h), dif_pos hvalid]
  rfl

/-- A sequence that keeps to the announcement of its first byte. -/
theorem next?_of_lead {b : UInt8} {rest : Bytes} {c : Char} (tail : Bytes) (lead : Lead)
    (hlead : lead? b = some lead) (hlen : tail.length = lead.more)
    (htail : ∀ t ∈ tail, isContinuation t = true) (hvalue : value lead.high tail = c.toNat)
    (hleast : lead.least ≤ c.toNat) : next? (b :: (tail ++ rest)) = some (c, rest) := by
  have htake : (tail ++ rest).take lead.more = tail := List.take_left' hlen
  have hdrop : (tail ++ rest).drop lead.more = rest := List.drop_left' hlen
  have hall : tail.all isContinuation = true := List.all_eq_true.2 htail
  simp only [next?, hlead, Option.bind_eq_bind, Option.bind_some, htake, hdrop, hlen,
    Nat.lt_irrefl, decide_false, hall, Bool.not_true, Bool.or_self, Bool.false_eq_true, if_false,
    hvalue, scalar?_toNat hleast]
  rfl

/-- Six bits make a continuation byte, -/
theorem isContinuation_ofNat (n : Nat) : isContinuation (UInt8.ofNat (n % 64 + 128)) = true := by
  have hall : ∀ k : Fin 64, isContinuation (UInt8.ofNat (k.val + 128)) = true := by
    decide +kernel
  exact hall ⟨n % 64, Nat.mod_lt n (by decide)⟩

/-- and are read back from it. -/
theorem value_cons_ofNat (high n : Nat) (tail : Bytes) :
    value high (UInt8.ofNat (n % 64 + 128) :: tail) = value (high * 64 + n % 64) tail := by
  have hnat : (UInt8.ofNat (n % 64 + 128)).toNat - 0x80 = n % 64 := by
    rw [UInt8.toNat_ofNat']
    omega
  rw [value, List.foldl_cons, hnat]
  rfl

/-- What the first byte of a sequence announces, by the range that it is in. -/
theorem lead?_ofNat {n : Nat} (hn : n < 256) : lead? (UInt8.ofNat n) =
    if n < 0x80 then some ⟨0, n, 0⟩
    else if n < 0xC0 then none
    else if n < 0xE0 then some ⟨1, n - 0xC0, 0x80⟩
    else if n < 0xF0 then some ⟨2, n - 0xE0, 0x800⟩
    else if n < 0xF8 then some ⟨3, n - 0xF0, 0x10000⟩
    else none := by
  have hnat : (UInt8.ofNat n).toNat = n := by
    rw [UInt8.toNat_ofNat']
    exact Nat.mod_eq_of_lt hn
  simp only [lead?, UInt8.lt_iff_toNat_lt, hnat]
  rfl

/-- A character is read back from its UTF-8 form. -/
theorem next?_encode (c : Char) (rest : Bytes) :
    next? (String.utf8EncodeChar c ++ rest) = some (c, rest) := by
  have hmax := toNat_lt c
  have hnat : c.val.toNat = c.toNat := rfl
  fun_cases String.utf8EncodeChar c with
  | case1 n h1 =>
    -- One byte.
    refine next?_of_lead [] ⟨0, n, 0⟩ ?_ rfl nofun hnat (Nat.zero_le _)
    rw [lead?_ofNat (by omega), if_pos (by omega)]
  | case2 n h1 h2 =>
    -- Two bytes.
    refine next?_of_lead [_] ⟨1, n / 64 % 32, 0x80⟩ ?_ rfl ?_ ?_ ?_
    · rw [lead?_ofNat (by omega), if_neg (by omega), if_neg (by omega), if_pos (by omega),
        Nat.add_sub_cancel]
    · exact List.forall_mem_singleton.2 (isContinuation_ofNat _)
    · rw [value_cons_ofNat, value, List.foldl_nil]
      dsimp only
      omega
    · dsimp only
      omega
  | case3 n h1 h2 h3 =>
    -- Three bytes.
    refine next?_of_lead [_, _] ⟨2, n / 4096 % 16, 0x800⟩ ?_ rfl ?_ ?_ ?_
    · rw [lead?_ofNat (by omega), if_neg (by omega), if_neg (by omega), if_neg (by omega),
        if_pos (by omega), Nat.add_sub_cancel]
    · exact List.forall_mem_cons.2 ⟨isContinuation_ofNat _,
        List.forall_mem_singleton.2 (isContinuation_ofNat _)⟩
    · rw [value_cons_ofNat, value_cons_ofNat, value, List.foldl_nil]
      dsimp only
      omega
    · dsimp only
      omega
  | case4 n h1 h2 h3 =>
    -- Four bytes.
    refine next?_of_lead [_, _, _] ⟨3, n / 262144 % 8, 0x10000⟩ ?_ rfl ?_ ?_ ?_
    · rw [lead?_ofNat (by omega), if_neg (by omega), if_neg (by omega), if_neg (by omega),
        if_neg (by omega), if_pos (by omega), Nat.add_sub_cancel]
    · exact List.forall_mem_cons.2 ⟨isContinuation_ofNat _, List.forall_mem_cons.2
        ⟨isContinuation_ofNat _, List.forall_mem_singleton.2 (isContinuation_ofNat _)⟩⟩
    · rw [value_cons_ofNat, value_cons_ofNat, value_cons_ofNat, value, List.foldl_nil]
      dsimp only
      omega
    · dsimp only
      omega

/-- A text is read back from its UTF-8 form. -/
theorem decode?_ofChars (cs : List Char) : decode? (Bytes.ofChars cs) = some cs := by
  induction cs with
  | nil => rw [Bytes.ofChars_nil, decode?]
  | cons c cs ih =>
    have hnext := next?_encode c (Bytes.ofChars cs)
    rw [Bytes.ofChars_cons]
    rcases hbytes : String.utf8EncodeChar c ++ Bytes.ofChars cs with _ | ⟨b, bs⟩
    · rw [hbytes] at hnext
      cases hnext
    · rw [hbytes] at hnext
      rw [decode?]
      split
      · rename_i hnone
        cases hnone.symm.trans hnext
      · rename_i hsome
        obtain ⟨rfl, rfl⟩ := Prod.mk.inj (Option.some.inj (hsome.symm.trans hnext))
        rw [ih]
        rfl

end Utf8

namespace Bytes

/-- What holds of all bytes can be checked one by one. -/
theorem forall_byte {P : UInt8 → Prop} (h : ∀ n, n < 256 → P (UInt8.ofNat n)) (b : UInt8) :
    P b := by
  have hb := h b.toNat b.toNat_lt
  rwa [UInt8.ofNat_toNat] at hb

/-- No two texts have the same UTF-8 form. -/
theorem ofChars_inj {cs cs' : List Char} : ofChars cs = ofChars cs' ↔ cs = cs' := by
  refine ⟨fun h => ?_, congrArg ofChars⟩
  have hread := congrArg Utf8.decode? h
  rwa [Utf8.decode?_ofChars, Utf8.decode?_ofChars, Option.some_inj] at hread

/-- Letters and digits are ASCII. -/
theorem toNat_lt_of_isAlphanum {c : Char} (h : c.isAlphanum = true) : c.toNat < 0x80 := by
  change (decide (65 ≤ c.val ∧ c.val ≤ 90) || (decide (97 ≤ c.val) && decide (c.val ≤ 122)) ||
    (decide (48 ≤ c.val) && decide (c.val ≤ 57))) = true at h
  simp only [Bool.or_eq_true, Bool.and_eq_true, decide_eq_true_eq, UInt32.le_iff_toNat_le] at h
  change ((65 ≤ c.toNat ∧ c.toNat ≤ 90) ∨ (97 ≤ c.toNat ∧ c.toNat ≤ 122)) ∨
    (48 ≤ c.toNat ∧ c.toNat ≤ 57) at h
  omega

/-- What holds of the letters, the digits and some signs can be checked one by one. -/
theorem forall_alphanum_or {P : Char → Prop} {signs : List Char}
    (h : ∀ n, n < 0x80 → (Char.ofNat n).isAlphanum = true ∨ Char.ofNat n ∈ signs → P (Char.ofNat n))
    (hsigns : signs.all (·.toNat < 0x80) = true) {c : Char}
    (hc : c.isAlphanum = true ∨ c ∈ signs) : P c := by
  have hlt : c.toNat < 0x80 :=
    hc.elim toNat_lt_of_isAlphanum fun hc => of_decide_eq_true (List.all_eq_true.1 hsigns c hc)
  have hchar := h c.toNat hlt
  rw [Char.ofNat_toNat] at hchar
  exact hchar hc

/-- What holds of all digits can be checked one by one. -/
theorem forall_digit {P : Char → Prop}
    (h : ∀ n, n < 0x80 → (Char.ofNat n).isDigit = true → P (Char.ofNat n)) {c : Char}
    (hc : c.isDigit = true) : P c := by
  have halphanum : c.isAlphanum = true ∨ c ∈ [] := .inl (by simp [Char.isAlphanum, hc])
  exact forall_alphanum_or (P := fun c => c.isDigit = true → P c)
    (fun n hn _ => h n hn) rfl halphanum hc

theorem isDigit_of_mem_toDigits {n : Nat} {c : Char} (h : c ∈ Nat.toDigits 10 n) :
    c.isDigit = true :=
  Nat.isDigit_of_mem_toDigits (by decide) (by decide) h

/-- An ASCII character is one byte. -/
theorem encode_of_lt {c : Char} (h : c.toNat < 0x80) :
    String.utf8EncodeChar c = [UInt8.ofNat c.toNat] := by
  have hle : c.val.toNat ≤ 127 := Nat.le_of_lt_succ h
  rw [String.utf8EncodeChar, if_pos hle]
  rfl

theorem ofChars_cons_of_lt {c : Char} (h : c.toNat < 0x80) (cs : List Char) :
    ofChars (c :: cs) = UInt8.ofNat c.toNat :: ofChars cs := by
  rw [ofChars_cons, encode_of_lt h, List.singleton_append]

/-- An ASCII text has a byte for each character. -/
theorem ofChars_eq_map {cs : List Char} (h : ∀ c ∈ cs, c.toNat < 0x80) :
    ofChars cs = cs.map fun c => UInt8.ofNat c.toNat := by
  induction cs with
  | nil => rfl
  | cons c cs ih =>
    obtain ⟨hc, hcs⟩ := List.forall_mem_cons.1 h
    rw [ofChars_cons_of_lt hc, ih hcs, List.map_cons]

/-- All bytes of any other character are outside ASCII. -/
theorem le_of_mem_encode {c : Char} (h : 0x80 ≤ c.toNat) {b : UInt8}
    (hb : b ∈ String.utf8EncodeChar c) : 0x80 ≤ b.toNat := by
  have hnat : c.val.toNat = c.toNat := rfl
  have hmax := Utf8.toNat_lt c
  rw [String.utf8EncodeChar, if_neg (by omega)] at hb
  -- Each byte is a payload behind a mark of one bit at least.
  have hmark : ∀ payload mark : Nat, 0x80 ≤ mark → payload + mark < 0x100 →
      0x80 ≤ (UInt8.ofNat (payload + mark)).toNat := fun payload mark hmark hlt => by
    rw [UInt8.toNat_ofNat', Nat.mod_eq_of_lt hlt]
    omega
  split at hb
  · simp only [List.mem_cons, List.not_mem_nil, or_false] at hb
    rcases hb with rfl | rfl <;> exact hmark _ _ (by decide) (by omega)
  split at hb
  · simp only [List.mem_cons, List.not_mem_nil, or_false] at hb
    rcases hb with rfl | rfl | rfl <;> exact hmark _ _ (by decide) (by omega)
  · simp only [List.mem_cons, List.not_mem_nil, or_false] at hb
    rcases hb with rfl | rfl | rfl | rfl <;> exact hmark _ _ (by decide) (by omega)

end Bytes

end FileServer
