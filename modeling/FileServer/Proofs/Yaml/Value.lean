import FileServer.Proofs.Text.Utf8
import FileServer.Proofs.Yaml.Tokens
import FileServer.Yaml.Value

/-!
# Whole numbers in lines

A whole number that is written in decimal is read back, with or without a minus sign, as far as 64
bits reach (`Scalar.unsigned?_ofInt`, `Scalar.signed?_ofInt`). The readers also know numbers to
other bases and take what begins with a zero for a text, so the digits are looked at one by one
first: none of them marks a base, and no number but zero begins with a zero (`head?_toDigits`).
-/

namespace FileServer.Yaml

/-! ### Digits -/

/-- Digits make words. -/
theorem isDigit_word {c : Char} (h : c.isDigit = true) :
    (Document.isAllowed c = true ∧ endsWord (some c) = false ∧ c ≠ ':') ∧
      Lexer.signs.contains c = false :=
  Bytes.forall_digit (P := fun c =>
    (Document.isAllowed c = true ∧ endsWord (some c) = false ∧ c ≠ ':') ∧
      Lexer.signs.contains c = false) (by decide +kernel) h

/-- A digit is worth what it says, and is no sign and no mark of a base. -/
theorem isDigit_value {c : Char} (h : c.isDigit = true) :
    (isHexDigit c = true ∧ hexValue c = c.toNat - 48 ∧ hexValue c < 10) ∧
      isSign c = false ∧ c ∉ ['x', 'o', 'b'] :=
  Bytes.forall_digit (P := fun c =>
    (isHexDigit c = true ∧ hexValue c = c.toNat - 48 ∧ hexValue c < 10) ∧
      isSign c = false ∧ c ∉ ['x', 'o', 'b']) (by decide +kernel) h

/-- No number but zero begins with a zero. -/
theorem head?_toDigits {n : Nat} (h : (Nat.toDigits 10 n).head? = some '0') : n = 0 := by
  induction n using Nat.strongRecOn with
  | ind n ih =>
    rcases Nat.lt_or_ge n 10 with hlt | hge
    · have hvalue := Nat.ofDigitChars_toDigits (b := 10) (n := n) (by decide) (by decide)
      rw [Nat.toDigits_of_lt_base hlt] at h hvalue
      rw [← hvalue, Option.some.inj h]
      rfl
    · rw [Nat.toDigits_of_base_le (by decide) hge,
        List.head?_append_of_ne_nil _ Nat.toDigits_ne_nil] at h
      have hzero := ih (n / 10) (Nat.div_lt_self (by omega) (by decide)) h
      omega

/-- The digits of a number are not a zero and more. -/
theorem toDigits_ne_zero_cons (n : Nat) (d : Char) (ds : List Char) :
    Nat.toDigits 10 n ≠ '0' :: d :: ds := by
  intro h
  obtain rfl : n = 0 := head?_toDigits (congrArg List.head? h)
  exact absurd (congrArg List.length h) (by simp)

theorem isZeroLed_eq_false {cs ds : List Char}
    (hds : (if cs.head? = some '-' ∨ cs.head? = some '+' then cs.tail else cs) = ds)
    (h : ∀ e es, ds ≠ '0' :: e :: es) : isZeroLed cs = false := by
  rw [isZeroLed, hds]
  split
  · exact absurd rfl (h _ _)
  · rfl

/-- No mark of a base stands between digits. -/
theorem based?_eq_none (lead : List Char) {cs : List Char} (hcs : ∀ c ∈ cs, c ∉ ['x', 'o', 'b']) :
    based? lead (lead ++ cs) = none := by
  have hmark : ∀ m ∈ ['x', 'o', 'b'], ∀ base,
      (behind? (lead ++ ['0', m]) (lead ++ cs)).bind (digits? base) = none := by
    intro m hm base
    have hno : (lead ++ ['0', m]).isPrefixOf (lead ++ cs) = false := by
      rw [← Bool.not_eq_true, List.isPrefixOf_iff_prefix, List.prefix_append_right_inj]
      rintro ⟨rest, rfl⟩
      exact hcs m (by simp) hm
    rw [behind?, hno]
    rfl
  simp only [based?, bases, List.findSome?_cons, hmark 'x' (by decide), hmark 'o' (by decide),
    hmark 'b' (by decide), List.findSome?_nil]

/-- The number that digits spell. -/
theorem digits?_toDigits (n : Nat) : digits? 10 (Nat.toDigits 10 n) = some n := by
  have hfold : ∀ (cs : List Char) (k : Nat), (∀ c ∈ cs, c.isDigit = true) →
      cs.foldlM (fun n c =>
          if isHexDigit c && hexValue c < 10 then some (n * 10 + hexValue c) else none) k =
        some (Nat.ofDigitChars 10 cs k) := by
    intro cs
    induction cs with
    | nil => exact fun k _ => rfl
    | cons c cs ih =>
      intro k hcs
      rw [List.forall_mem_cons] at hcs
      obtain ⟨⟨hhex, hvalue, hlt⟩, -⟩ := isDigit_value hcs.1
      have hlt' : c.toNat - 48 < 10 := hvalue ▸ hlt
      rw [List.foldlM_cons, hhex, hvalue, decide_eq_true hlt', Nat.mul_comm k]
      exact ih _ hcs.2
  rw [digits?, if_neg Nat.toDigits_ne_nil, hfold _ _ fun c => Bytes.isDigit_of_mem_toDigits]
  rw [Nat.ofDigitChars_toDigits (by decide) (by decide)]

/-! ### Whole numbers -/

/-- What is in front of the digits of a number. -/
theorem exists_toDigits (n : Nat) : ∃ d ds, Nat.toDigits 10 n = d :: ds ∧ d ≠ '-' ∧ d ≠ '+' := by
  obtain ⟨d, ds, h⟩ := List.exists_cons_of_ne_nil (Nat.toDigits_ne_nil (n := n) (b := 10))
  have hsign := (isDigit_value (Bytes.isDigit_of_mem_toDigits (h ▸ List.mem_cons_self))).2.1
  rw [isSign, Bool.or_eq_false_iff, beq_eq_false_iff_ne, beq_eq_false_iff_ne] at hsign
  exact ⟨d, ds, h, hsign.2, hsign.1⟩

theorem not_mem_bases_toDigits (n : Nat) : ∀ c ∈ Nat.toDigits 10 n, c ∉ ['x', 'o', 'b'] :=
  fun _ hc => (isDigit_value (Bytes.isDigit_of_mem_toDigits hc)).2.2

/-- A number is read back from its digits. -/
theorem natural?_toDigits (n : Nat) : natural? (Nat.toDigits 10 n) = some n := by
  have hbase := based?_eq_none [] (not_mem_bases_toDigits n)
  have hdigits := digits?_toDigits n
  have hzero : isZeroLed (Nat.toDigits 10 n) = false := by
    refine isZeroLed_eq_false ?_ (toDigits_ne_zero_cons n)
    obtain ⟨d, ds, h, hminus, hplus⟩ := exists_toDigits n
    simp [h, hminus, hplus]
  obtain ⟨d, ds, h, hminus, hplus⟩ := exists_toDigits n
  rw [h] at hbase hdigits hzero ⊢
  rw [List.nil_append] at hbase
  simp [natural?, withoutPlus, isSign, hminus, hplus, hbase, hzero, hdigits]

/-- With a minus sign it is no natural number. -/
theorem natural?_minus (n : Nat) : natural? ('-' :: Nat.toDigits 10 n) = none := by
  have hbase := based?_eq_none []
    (List.forall_mem_cons.2 ⟨(by decide : '-' ∉ ['x', 'o', 'b']), not_mem_bases_toDigits n⟩)
  rw [List.nil_append] at hbase
  simp [natural?, withoutPlus, isSign, hbase]

/-- A number is read back from a minus sign and its digits. -/
theorem negative?_minus (n : Nat) : negative? ('-' :: Nat.toDigits 10 n) = some n := by
  have hbase := based?_eq_none ['-'] (not_mem_bases_toDigits n)
  have hzero : isZeroLed ('-' :: Nat.toDigits 10 n) = false :=
    isZeroLed_eq_false rfl (toDigits_ne_zero_cons n)
  rw [List.singleton_append] at hbase
  simp [negative?, behind?, hbase, hzero, digits?_toDigits]

/-- How a whole number is written in decimal. -/
theorem toList_toString (n : Nat) : (toString (n : Int)).toList = Nat.toDigits 10 n := by
  change (Nat.repr n).toList = _
  rw [Nat.repr_eq_ofList_toDigits, String.toList_ofList]

theorem toList_toString_negSucc (n : Nat) :
    (toString (Int.negSucc n)).toList = '-' :: Nat.toDigits 10 (n + 1) := by
  change ("-" ++ Nat.repr (n + 1)).toList = _
  rw [String.toList_append, Nat.repr_eq_ofList_toDigits, String.toList_ofList, String.toList_ofList]
  rfl

namespace Scalar

/-- A whole number in decimal. -/
def ofInt (n : Int) : Scalar := ⟨(toString n).toList, .plain, none⟩

/-- A text between double quotes. -/
def ofString (s : String) : Scalar := ⟨s.toList, .doubleQuoted, none⟩

theorem ofInt_natCast (n : Nat) : ofInt n = ⟨Nat.toDigits 10 n, .plain, none⟩ := by
  rw [ofInt, toList_toString]

theorem ofInt_negSucc (n : Nat) :
    ofInt (.negSucc n) = ⟨'-' :: Nat.toDigits 10 (n + 1), .plain, none⟩ := by
  rw [ofInt, toList_toString_negSucc]

/-- A whole number fits into a line. -/
theorem fitsLine_ofInt (n : Int) : (ofInt n).FitsLine := by
  rcases n with n | n
  · rw [Int.ofNat_eq_natCast, ofInt_natCast]
    obtain ⟨d, ds, h⟩ := List.exists_cons_of_ne_nil (Nat.toDigits_ne_nil (n := n) (b := 10))
    exact .plain ⟨fun c hc => (isDigit_word (Bytes.isDigit_of_mem_toDigits hc)).1, d, ds, h,
      .inl (isDigit_word (Bytes.isDigit_of_mem_toDigits (h ▸ List.mem_cons_self))).2⟩
  · rw [ofInt_negSucc]
    exact .plain ⟨List.forall_mem_cons.2 ⟨by decide,
      fun c hc => (isDigit_word (Bytes.isDigit_of_mem_toDigits hc)).1⟩, '-', _, rfl,
      .inr ⟨rfl, Nat.toDigits_ne_nil⟩⟩

/-- A text between quotes fits into a line. -/
theorem fitsLine_ofString {s : String} (hs : ∀ c ∈ s.toList, isQuotable c = true) :
    (ofString s).FitsLine :=
  .quoted hs

/-- A natural number of 64 bits is read back. -/
theorem unsigned?_ofInt {n : Nat} (h : n < Nat.pow 2 64) : (ofInt n).unsigned? = some n := by
  have hbelow : naturalBelow? (Nat.pow 2 64) (Nat.toDigits 10 n) = some n := by
    rw [naturalBelow?, natural?_toDigits, Option.filter_some, decide_eq_true h, if_pos rfl]
  rw [ofInt_natCast, unsigned?, hbelow]
  rfl

/-- A whole number of 64 bits is read back. -/
theorem signed?_ofInt {n : Int} (hleast : -9223372036854775808 ≤ n)
    (hgreatest : n < 9223372036854775808) : (ofInt n).signed? = some n := by
  rcases n with n | n
  · have h : n < Nat.pow 2 63 := by
      rw [Int.ofNat_eq_natCast] at hgreatest
      change n < 9223372036854775808
      omega
    have hbelow : naturalBelow? (Nat.pow 2 63) (Nat.toDigits 10 n) = some n := by
      rw [naturalBelow?, natural?_toDigits, Option.filter_some, decide_eq_true h, if_pos rfl]
    rw [Int.ofNat_eq_natCast, ofInt_natCast, signed?, hbelow]
    rfl
  · have h : n + 1 ≤ Nat.pow 2 63 := by
      change n + 1 ≤ 9223372036854775808
      omega
    have hbelow : naturalBelow? (Nat.pow 2 63) ('-' :: Nat.toDigits 10 (n + 1)) = none := by
      rw [naturalBelow?, natural?_minus, Option.filter_none]
    have hupTo : negativeUpTo? (Nat.pow 2 63) ('-' :: Nat.toDigits 10 (n + 1)) = some (n + 1) := by
      rw [negativeUpTo?, negative?_minus, Option.filter_some, decide_eq_true h, if_pos rfl]
    rw [ofInt_negSucc, signed?, hbelow, hupTo]
    rfl

end Scalar

end FileServer.Yaml
