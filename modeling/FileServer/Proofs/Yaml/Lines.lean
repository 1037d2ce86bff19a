import FileServer.Proofs.Text.Utf8
import FileServer.Proofs.Yaml.Scalar

/-!
# Lines of names and scalars

The plainest documents: a text of lines, each of them a name and a scalar with a colon and a blank
between them (`linesText`). A name is made of letters (`IsKey`), and a scalar is a word or a text
between double quotes (`Scalar.FitsLine`). The readers see such a text as a line and what stands
below it (`linesText_cons`).
-/

namespace FileServer.Yaml

/-! ### Names -/

/-- A character that means nothing to the notation, wherever it stands. All letters are such. -/
def isLetter (c : Char) : Bool :=
  Document.isAllowed c && !endsWord (some c) && !Lexer.signs.contains c && c != '.' &&
    c != '\ufeff'

/-- A name that needs no quotes. -/
structure IsKey (name : List Char) : Prop where
  ne_nil : name ≠ []
  letters : ∀ c ∈ name, isLetter c = true

/-- What a letter is not. -/
theorem isLetter_spec {c : Char} (h : isLetter c = true) :
    Document.isAllowed c = true ∧ endsWord (some c) = false ∧ Lexer.signs.contains c = false ∧
      c ≠ '.' ∧ c ≠ '\ufeff' := by
  simp only [isLetter, Bool.and_eq_true, Bool.not_eq_true', bne_iff_ne] at h
  exact ⟨h.1.1.1.1, h.1.1.1.2, h.1.1.2, h.1.2, h.2⟩

theorem Lexer.ne_of_signs {c d : Char} (hc : signs.contains c = false)
    (hd : signs.contains d = true) : c ≠ d := by
  rintro rfl
  exact absurd hd (ne_true_of_eq_false hc)

/-- The letters of the alphabet are letters. -/
theorem isLetter_of_isAlpha {c : Char} (h : c.isAlpha = true) : isLetter c = true := by
  have hc : c.isAlphanum = true ∨ c ∈ [] := .inl (by simp [Char.isAlphanum, h])
  exact Bytes.forall_alphanum_or (P := fun c => c.isAlpha = true → isLetter c = true)
    (by decide +kernel) rfl hc h

theorem IsKey.of_isAlpha {name : List Char} (hne : name ≠ [])
    (h : ∀ c ∈ name, c.isAlpha = true) : IsKey name :=
  ⟨hne, fun c hc => isLetter_of_isAlpha (h c hc)⟩

/-- No letter ends a name. -/
theorem IsKey.inner {name : List Char} (h : IsKey name) :
    ∀ c ∈ name, endsWord (some c) = false ∧ c ≠ ':' := by
  intro c hc
  obtain ⟨-, hword, hsign, -⟩ := isLetter_spec (h.letters c hc)
  exact ⟨hword, Lexer.ne_of_signs hsign (by decide +kernel)⟩

/-! ### Scalars -/

/-- How a word begins: with no sign, or with a hyphen that the word goes on behind. -/
theorem IsWord.first {w : List Char} (h : IsWord w) :
    ∃ e es, w = e :: es ∧ endsWord (some e) = false ∧ e ≠ '#' ∧ ∀ rest,
      Lexer.signs.contains e = false ∨ e = '-' ∧ endsWord (es ++ rest).head? = false := by
  obtain ⟨e, es, rfl, hstart⟩ := h.start
  refine ⟨e, es, rfl, (h.inner e List.mem_cons_self).2.1, ?_, fun rest => ?_⟩
  · rcases hstart with hsign | ⟨rfl, -⟩
    · exact Lexer.ne_of_signs hsign (by decide +kernel)
    · decide
  · refine hstart.imp_right fun ⟨he, hes⟩ => ⟨he, ?_⟩
    obtain ⟨f, fs, rfl⟩ := List.exists_cons_of_ne_nil hes
    exact (h.inner f (List.mem_cons_of_mem e List.mem_cons_self)).2.1

/-- The scalars that fit into a line behind a name, in one of two notations. -/
inductive Scalar.FitsLine : Scalar → Prop
  | plain {text : List Char} : IsWord text → FitsLine ⟨text, .plain, none⟩
  | quoted {text : List Char} : (∀ c ∈ text, isQuotable c = true) →
      FitsLine ⟨text, .doubleQuoted, none⟩

/-- How such a scalar is written. -/
def Scalar.written (s : Scalar) : List Char :=
  if s.style = .doubleQuoted then '\x22' :: (s.text ++ ['\x22']) else s.text

theorem Scalar.FitsLine.tag_eq {s : Scalar} (hs : s.FitsLine) : s.tag = none := by
  rcases hs with ⟨_⟩ | ⟨_⟩
  · rfl
  · rfl

theorem isAllowed_of_isQuotable {c : Char} (h : isQuotable c = true) :
    Document.isAllowed c = true := by
  simp only [isQuotable, Bool.and_eq_true, decide_eq_true_eq] at h
  simp [Document.isAllowed, h.1.1.1, h.1.1.2]

/-! ### Lines -/

/-- A name and what it stands for. -/
structure Pair where
  name : List Char
  value : Scalar

namespace Pair

/-- The line of a pair. -/
def line (p : Pair) : List Char := p.name ++ ':' :: ' ' :: p.value.written

/-- The name needs no quotes, and the scalar fits behind it. -/
structure FitsLine (p : Pair) : Prop where
  name : IsKey p.name
  value : p.value.FitsLine

/-- What is made of each line comes to so much for all of them. -/
theorem length_flatMap {α : Type} {f : Pair → List α} {n : Nat} (h : ∀ p, (f p).length = n)
    (ps : List Pair) : (ps.flatMap f).length = n * ps.length := by
  induction ps with
  | nil => rfl
  | cons p ps ih =>
    rw [List.flatMap_cons, List.length_append, h, ih, List.length_cons, Nat.mul_add, Nat.add_comm,
      Nat.mul_one]

/-- Every character of a line may be in a document. -/
theorem FitsLine.isAllowed {p : Pair} (hp : p.FitsLine) :
    ∀ c ∈ p.line, Document.isAllowed c = true := by
  have hname : ∀ c ∈ p.name, Document.isAllowed c = true := fun c hc =>
    (isLetter_spec (hp.name.letters c hc)).1
  have hvalue : ∀ c ∈ p.value.written, Document.isAllowed c = true := by
    rcases p.value, hp.value with ⟨_, ⟨hword⟩ | ⟨htext⟩⟩
    · exact fun c hc => (hword.inner c hc).1
    · intro c hc
      rw [Scalar.written, if_pos rfl, List.mem_cons, List.mem_append, List.mem_singleton] at hc
      rcases hc with rfl | hc | rfl
      · rfl
      · exact isAllowed_of_isQuotable (htext c hc)
      · rfl
  intro c hc
  rw [line, List.mem_append, List.mem_cons, List.mem_cons] at hc
  rcases hc with hc | rfl | rfl | hc
  · exact hname c hc
  · rfl
  · rfl
  · exact hvalue c hc

end Pair

/-- A text of lines; the last one may be ended like the others or not. -/
def linesText (ended : Bool) (ps : List Pair) : List Char :=
  ['\n'].intercalate (ps.map Pair.line) ++ if ended then ['\n'] else []

/-- What stands behind a line: a line end and the lines below it, or nothing. -/
def below (ended : Bool) : List Pair → List Char
  | [] => if ended then ['\n'] else []
  | p :: ps => '\n' :: (p.line ++ below ended ps)

/-- A text of lines is a line and what stands below it. -/
theorem linesText_cons (ended : Bool) (p : Pair) (ps : List Pair) :
    linesText ended (p :: ps) = p.line ++ below ended ps := by
  induction ps generalizing p with
  | nil => rw [linesText, List.map_singleton, List.intercalate_singleton, below]
  | cons q ps ih =>
    have hq := ih q
    rw [linesText] at hq ⊢
    rw [List.map_cons, List.map_cons, List.intercalate_cons_cons, ← List.map_cons, below]
    rw [List.append_assoc, List.append_assoc, hq]
    rfl

theorem below_cases (ended : Bool) (ps : List Pair) :
    below ended ps = [] ∨ below ended ps = '\n' :: (below ended ps).tail := by
  rcases ps with _ | _
  · rcases ended
    · exact .inl rfl
    · exact .inr rfl
  · exact .inr rfl

theorem length_le_length_below (ended : Bool) (ps : List Pair) :
    ps.length ≤ (below ended ps).length := by
  induction ps with
  | nil => exact Nat.zero_le _
  | cons p ps ih =>
    rw [below, List.length_cons, List.length_cons, List.length_append]
    omega

/-- Neither a blank nor a line end begins the lines below. -/
theorem beginsLine_below {ended : Bool} {ps : List Pair} (hps : ∀ p ∈ ps, p.FitsLine) :
    BeginsLine (below ended ps).tail := by
  intro d hd
  rcases ps with _ | ⟨p, ps⟩
  · rcases ended <;> exact absurd hd (Option.some_ne_none d).symm
  · have hname := (hps p List.mem_cons_self).name
    obtain ⟨e, es, he⟩ := List.exists_cons_of_ne_nil hname.ne_nil
    rw [below, List.tail_cons, Pair.line, he] at hd
    obtain rfl := Option.some.inj hd
    have hword := (hname.inner e (he ▸ List.mem_cons_self)).1
    rwa [endsWord, Bool.or_eq_false_iff] at hword

theorem isAllowed_below {ended : Bool} {ps : List Pair} (hps : ∀ p ∈ ps, p.FitsLine) :
    ∀ c ∈ below ended ps, Document.isAllowed c = true := by
  induction ps with
  | nil =>
    rcases ended
    · exact List.forall_mem_nil _
    · exact List.forall_mem_singleton.2 rfl
  | cons p ps ih =>
    rw [List.forall_mem_cons] at hps
    intro c hc
    rw [below, List.mem_cons, List.mem_append] at hc
    rcases hc with rfl | hc | hc
    · rfl
    · exact hps.1.isAllowed c hc
    · exact ih hps.2 c hc

/-- Every character of lines may be in a document. -/
theorem isAllowed_linesText {ended : Bool} {ps : List Pair} (hps : ∀ p ∈ ps, p.FitsLine) :
    ∀ c ∈ linesText ended ps, Document.isAllowed c = true := by
  rcases ps with _ | ⟨p, ps⟩
  · exact isAllowed_below hps
  · rw [List.forall_mem_cons] at hps
    rw [linesText_cons]
    exact List.forall_mem_append.2 ⟨hps.1.isAllowed, isAllowed_below hps.2⟩

end FileServer.Yaml
