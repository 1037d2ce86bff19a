import FileServer.Yaml.Document

/-!
# Scalars in one line

Which texts the two readers of scalars give back as they stand: a word that holds nothing the
notation reacts to is a plain scalar up to what ends it (`Scalar.plain_word`,
`Scalar.plain_word_line`), and a text between double quotes that holds neither quotes nor
backslashes is a quoted one, blanks and signs included (`Scalar.quoted_text`).
-/

namespace FileServer.Yaml

namespace Cursor

@[simp] theorem rest_advance (c : Cursor) (n : Nat) : (c.advance n).rest = c.rest.drop n := rfl

theorem rest_advance_one {c : Cursor} {d : Char} {rest : List Char} (h : c.rest = d :: rest) :
    (c.advance 1).rest = rest := by
  rw [rest_advance, h, List.drop_one, List.tail_cons]

theorem rest_advance_append {c : Cursor} {front rest : List Char} (h : c.rest = front ++ rest) :
    (c.advance front.length).rest = rest := by
  rw [rest_advance, h, List.drop_left]

@[simp] theorem column_advance (c : Cursor) (n : Nat) :
    (c.advance n).mark.column = c.mark.column + n := rfl

@[simp] theorem advance_zero (c : Cursor) : c.advance 0 = c := rfl

theorem advance_advance (c : Cursor) (m n : Nat) : (c.advance m).advance n = c.advance (m + n) := by
  simp only [advance, List.drop_drop, Nat.add_assoc]

/-- Where another character stands, no mark between documents begins. -/
theorem atDocumentMark_of_ne {c : Cursor} {x y : Char} (h : c.head? = some y) (hne : y ≠ x) :
    c.atDocumentMark x = false := by
  obtain ⟨rest, hrest⟩ := List.head?_eq_some_iff.1 h
  simp [atDocumentMark, hrest, hne]

/-- Within a line no mark between documents begins. -/
theorem atAnyDocumentMark_of_column {c : Cursor} (h : c.mark.column ≠ 0) :
    c.atAnyDocumentMark = false := by
  simp [atAnyDocumentMark, atDocumentMark, h]

end Cursor

/-! ### Gaps -/

/-- Neither a blank nor a line end stands first. -/
def BeginsLine (rest : List Char) : Prop :=
  ∀ d, rest.head? = some d → isBlank d = false ∧ isBreak d = false

namespace Gap

variable {limit : Int} {g : Gap} {m : Mark} {rest : List Char}

/-- A gap ends where neither a blank nor a line end stands. -/
theorem read_of_beginsLine (h : BeginsLine rest) : read limit g m rest = .ok (g, ⟨rest, m⟩) := by
  rcases rest with _ | ⟨d, rest⟩
  · exact read.eq_1 limit g m
  · obtain ⟨hblank, hbreak⟩ := h d rfl
    rw [read.eq_3, hbreak, hblank]
    · rfl
    · rintro _ rfl -
      exact absurd hbreak (by decide)

/-- A line feed ends the line. -/
theorem read_lineFeed :
    read limit g m ('\n' :: rest) = read limit (g.addBreak ['\n']) (Cursor.nextLine m 1) rest := by
  rw [read.eq_3]
  · rfl
  · intro _ h
    exact absurd h (by decide)

/-- Spaces in a line stay in the gap. -/
theorem read_spaces {c : Cursor} {n : Nat} (hg : g.broken = false)
    (hc : c.rest = List.replicate n ' ' ++ rest) (hrest : BeginsLine rest) :
    read limit g c.mark c.rest =
      .ok ({ g with blanks := g.blanks ++ List.replicate n ' ' }, c.advance n) := by
  induction n generalizing g c with
  | zero =>
    rw [List.replicate_zero, List.nil_append] at hc
    rw [← hc] at hrest
    rw [read_of_beginsLine hrest, List.replicate_zero, List.append_nil]
    rfl
  | succ n ih =>
    -- The first space goes to the blanks of the gap, and the others behind it.
    rw [List.replicate_succ, List.cons_append] at hc
    have hnext : (c.advance 1).rest = List.replicate n ' ' ++ rest := Cursor.rest_advance_one hc
    have hread : read limit g c.mark c.rest =
        read limit { g with blanks := g.blanks ++ [' '] } (c.advance 1).mark
          (c.advance 1).rest := by
      rw [hnext, hc, read.eq_3]
      · rw [if_neg (by decide), if_neg (by decide), if_neg (by rw [hg]; decide)]
        rfl
      · intro _ h
        exact absurd h (by decide)
    have hbroken : ({ g with blanks := g.blanks ++ [' '] } : Gap).broken = false := hg
    rw [hread, ih hbroken hnext, Cursor.advance_advance, Nat.add_comm 1 n, List.append_assoc]
    rfl

end Gap

/-! ### Plain words -/

/-- A word that the notation takes as it stands: it holds no blank, no line end and no colon, and
    it begins with no sign, but for a hyphen with something behind it. -/
structure IsWord (w : List Char) : Prop where
  inner : ∀ c ∈ w, Document.isAllowed c = true ∧ endsWord (some c) = false ∧ c ≠ ':'
  start : ∃ c cs, w = c :: cs ∧ (Lexer.signs.contains c = false ∨ c = '-' ∧ cs ≠ [])

namespace Scalar

/-- The characters of a word are taken up to what ends it. -/
theorem plainRun_append {w rest : List Char}
    (hw : ∀ c ∈ w, endsWord (some c) = false ∧ c ≠ ':')
    (hrest : ∀ n, plainRun false n rest = .ok []) (n : Nat) :
    plainRun false n (w ++ rest) = .ok w := by
  induction w generalizing n with
  | nil => exact hrest n
  | cons c w ih =>
    obtain ⟨hword, hcolon⟩ := hw c List.mem_cons_self
    rw [List.cons_append, plainRun, ih fun d hd => hw d (List.mem_cons_of_mem c hd)]
    simp [hword, hcolon, Except.map]

variable {c : Cursor} {w rest : List Char}

/-- A plain scalar is a word and, in this step, the gap behind it. -/
theorem plain_eq (hc : c.rest = w ++ rest) (hne : w ≠ [])
    (hw : ∀ d ∈ w, endsWord (some d) = false ∧ d ≠ ':')
    (hrest : ∀ n, plainRun false n rest = .ok []) (hmark : c.atAnyDocumentMark = false)
    (hcomment : c.isAt '#' = false) (indent : Int) :
    Scalar.plain false indent c =
      if !rest.head?.any fun d => endsWord (some d) then
        .ok ⟨w, {}, (c.advance w.length).mark, c.advance w.length⟩
      else
        match Gap.read (indent + 1) {} (c.advance w.length).mark rest with
        | .error place => mistake "while scanning a plain scalar"
            "found a tab character that violates indentation" c.mark place
        | .ok (gap, cursor) =>
          let p : PlainProgress := ⟨w, gap, (c.advance w.length).mark, cursor⟩
          if cursor.mark.column < indent + 1 then .ok p
          else plainLoop false (indent + 1) c.mark c.rest.length p := by
  have hrun := plainRun_append hw hrest 0
  rw [← hc] at hrun
  rw [Scalar.plain, plainLoop]
  simp only [hmark, hcomment, Bool.or_self, Bool.false_eq_true, if_false, hrun, if_neg hne,
    Cursor.head?, Cursor.rest_advance_append hc, Bool.not_false, Bool.true_and, decide_eq_true_eq]
  rfl

/-- A word is a plain scalar up to what ends it, unless that is a gap. -/
theorem plain_word (hc : c.rest = w ++ rest) (hne : w ≠ [])
    (hw : ∀ d ∈ w, endsWord (some d) = false ∧ d ≠ ':')
    (hrest : ∀ n, plainRun false n rest = .ok [])
    (hgap : (rest.head?.any fun d => endsWord (some d)) = false)
    (hmark : c.atAnyDocumentMark = false) (hcomment : c.isAt '#' = false) (indent : Int) :
    Scalar.plain false indent c =
      .ok ⟨w, {}, (c.advance w.length).mark, c.advance w.length⟩ := by
  rw [plain_eq hc hne hw hrest hmark hcomment, hgap]
  rfl

/-- A word at the end of a line is a plain scalar, and the line end is passed with it. -/
theorem plain_word_line (hc : c.rest = w ++ '\n' :: rest) (hne : w ≠ [])
    (hw : ∀ d ∈ w, endsWord (some d) = false ∧ d ≠ ':') (hrest : BeginsLine rest)
    (hmark : c.atAnyDocumentMark = false) (hcomment : c.isAt '#' = false) {indent : Int}
    (hindent : 0 ≤ indent) :
    ∃ p, Scalar.plain false indent c = .ok p ∧ p.text = w ∧ p.gap.broken = true ∧
      p.cursor.rest = rest ∧ p.cursor.mark.column = 0 := by
  have hstop : ∀ n, plainRun false n ('\n' :: rest) = .ok [] := fun _ => rfl
  rw [plain_eq hc hne hw hstop hmark hcomment, Gap.read_lineFeed, Gap.read_of_beginsLine hrest]
  have hcolumn : ((0 : Nat) : Int) < indent + 1 := Int.lt_add_one_of_le hindent
  exact ⟨_, if_pos hcolumn, rfl, rfl, rfl, rfl⟩

end Scalar

/-! ### Texts between quotes -/

/-- A printable character of ASCII that stands for itself between double quotes. -/
def isQuotable (c : Char) : Bool := 0x20 ≤ c.toNat && c.toNat ≤ 0x7E && c != '\x22' && c != '\\'

/-- It ends no line, and is a blank only if it is a space. -/
theorem endsWord_of_isQuotable {c : Char} (h : isQuotable c = true) (hne : c ≠ ' ') :
    endsWord (some c) = false := by
  simp only [isQuotable, Bool.and_eq_true, decide_eq_true_eq, bne_iff_ne] at h
  rw [← Bool.not_eq_true]
  intro hends
  simp only [endsWord, isBlank, isBreak, Bool.or_eq_true, beq_iff_eq] at hends
  rcases hends with (rfl | rfl) | (((rfl | rfl) | rfl) | rfl) | rfl
  · exact hne rfl
  all_goals exact absurd h.1.1 (by decide)

/-- A text is a run without spaces, the spaces behind it, and the rest, if there are spaces. -/
theorem exists_spaces (text : List Char) : ∃ run n more,
    text = run ++ (List.replicate n ' ' ++ more) ∧ (∀ c ∈ run, c ≠ ' ') ∧
      more.head? ≠ some ' ' ∧ (n = 0 → more = []) := by
  induction text with
  | nil => exact ⟨[], 0, [], rfl, fun _ h => absurd h List.not_mem_nil, by decide, fun _ => rfl⟩
  | cons c text ih =>
    obtain ⟨run, n, more, rfl, hrun, hmore, hnone⟩ := ih
    by_cases hc : c = ' '
    · subst hc
      rcases run with _ | ⟨d, run⟩
      · refine ⟨[], n + 1, more, rfl, hrun, hmore, fun h => absurd h (Nat.succ_ne_zero n)⟩
      · refine ⟨[], 1, d :: run ++ (List.replicate n ' ' ++ more), rfl,
          fun _ h => absurd h List.not_mem_nil, fun h => ?_, fun h => absurd h Nat.one_ne_zero⟩
        exact hrun d List.mem_cons_self (Option.some.inj h)
    · exact ⟨c :: run, n, more, rfl, List.forall_mem_cons.2 ⟨hc, hrun⟩, hmore, hnone⟩

namespace Scalar

variable {c : Cursor} {text rest acc : List Char} {start : Mark} {fuel : Nat}

/-- Up to a space or the closing quote every character stands for itself. -/
theorem quotedRun_append (hc : c.rest = text ++ rest)
    (htext : ∀ d ∈ text, isQuotable d = true ∧ d ≠ ' ') (hfuel : text.length < fuel)
    (hrest : rest.head? = some ' ' ∨ rest.head? = some '\x22') :
    quotedRun false start fuel acc c = .ok ⟨acc ++ text, false, c.advance text.length⟩ := by
  induction text generalizing fuel acc c with
  | nil =>
    obtain ⟨fuel, rfl⟩ := Nat.exists_eq_add_one_of_ne_zero (Nat.ne_zero_of_lt hfuel)
    rw [List.nil_append] at hc
    rw [List.append_nil]
    rcases hrest with h | h
    all_goals
      obtain ⟨more, hmore⟩ := List.head?_eq_some_iff.1 h
      rw [quotedRun, hc, hmore]
      rfl
  | cons d text ih =>
    obtain ⟨fuel, rfl⟩ := Nat.exists_eq_add_one_of_ne_zero (Nat.ne_zero_of_lt hfuel)
    -- The first character ends no word, is no quote and begins no escape.
    obtain ⟨hd, hspace⟩ := htext d List.mem_cons_self
    have hword := endsWord_of_isQuotable hd hspace
    simp only [isQuotable, Bool.and_eq_true, bne_iff_ne] at hd
    have hnext : (c.advance 1).rest = text ++ rest := Cursor.rest_advance_one hc
    have hmore : quotedRun false start fuel (acc ++ [d]) (c.advance 1) =
        .ok ⟨acc ++ [d] ++ text, false, (c.advance 1).advance text.length⟩ :=
      ih hnext (fun e he => htext e (List.mem_cons_of_mem d he)) (Nat.lt_of_succ_lt_succ hfuel)
    rw [quotedRun, hc, List.cons_append]
    simp only [hword, Bool.false_eq_true, if_false, if_neg hd.1.2, if_neg hd.2]
    rw [hmore, Cursor.advance_advance, List.append_assoc, Nat.add_comm]
    rfl

/-- Behind the spaces of a text, its next character or the closing quote stands. -/
theorem beginsLine_quote (htext : ∀ d ∈ text, isQuotable d = true)
    (hspace : text.head? ≠ some ' ') : BeginsLine (text ++ '\x22' :: rest) := by
  intro d hd
  suffices hword : endsWord (some d) = false by
    rwa [endsWord, Bool.or_eq_false_iff] at hword
  rcases text with _ | ⟨e, text⟩
  · obtain rfl := Option.some.inj hd
    rfl
  · obtain rfl := Option.some.inj hd
    exact endsWord_of_isQuotable (htext _ List.mem_cons_self) fun h => hspace (congrArg some h)

/-- There is always enough for a run, and something stands behind it. -/
theorem quotedRun_run (start : Mark) (acc : List Char) (hc : c.rest = text ++ rest)
    (htext : ∀ d ∈ text, isQuotable d = true ∧ d ≠ ' ')
    (hrest : rest.head? = some ' ' ∨ rest.head? = some '\x22') :
    c.rest ≠ [] ∧ quotedRun false start (c.rest.length + 1) acc c =
      .ok ⟨acc ++ text, false, c.advance text.length⟩ := by
  constructor
  · rw [hc]
    refine List.append_ne_nil_of_right_ne_nil _ ?_
    rintro rfl
    exact hrest.elim (Option.some_ne_none _).symm (Option.some_ne_none _).symm
  · refine quotedRun_append hc htext ?_ hrest
    rw [hc, List.length_append]
    omega

/-- Behind a run without spaces the quote ends the text. -/
theorem quotedLoop_quote (hc : c.rest = text ++ '\x22' :: rest)
    (htext : ∀ d ∈ text, isQuotable d = true ∧ d ≠ ' ') (hcolumn : c.mark.column ≠ 0) :
    quotedLoop false start (fuel + 1) acc c =
      .ok (acc ++ text, c.advance (text.length + 1)) := by
  obtain ⟨hne, hrun⟩ := quotedRun_run start acc hc htext (.inr rfl)
  have hquote : (c.advance text.length).isAt '\x22' = true := by
    rw [Cursor.isAt, Cursor.head?, Cursor.rest_advance_append hc]
    rfl
  rw [quotedLoop]
  simp only [Cursor.atAnyDocumentMark_of_column hcolumn, Bool.false_eq_true, if_false, if_neg hne,
    hrun, bind, Except.bind, hquote, if_true]
  rw [Cursor.advance_advance]
  rfl

/-- Behind a run the spaces are read, and then it goes on. -/
theorem quotedLoop_spaces {n : Nat} (hc : c.rest = text ++ (List.replicate (n + 1) ' ' ++ rest))
    (htext : ∀ d ∈ text, isQuotable d = true ∧ d ≠ ' ') (hrest : BeginsLine rest)
    (hcolumn : c.mark.column ≠ 0) :
    quotedLoop false start (fuel + 1) acc c =
      quotedLoop false start fuel (acc ++ text ++ List.replicate (n + 1) ' ')
        (c.advance (text.length + (n + 1))) := by
  have hbehind : (c.advance text.length).rest = List.replicate (n + 1) ' ' ++ rest :=
    Cursor.rest_advance_append hc
  obtain ⟨hne, hrun⟩ := quotedRun_run start acc hc htext (.inl rfl)
  have hquote : (c.advance text.length).isAt '\x22' = false := by
    rw [Cursor.isAt, Cursor.head?, hbehind]
    rfl
  have hread : Gap.read 0 {} (c.advance text.length).mark (c.advance text.length).rest =
      .ok ({ blanks := List.replicate (n + 1) ' ' }, (c.advance text.length).advance (n + 1)) :=
    Gap.read_spaces rfl hbehind hrest
  rw [quotedLoop]
  simp only [Cursor.atAnyDocumentMark_of_column hcolumn, Bool.false_eq_true, if_false, if_neg hne,
    hrun, bind, Except.bind, hquote, hread]
  rw [Cursor.advance_advance]
  rfl

/-- Runs and spaces in turn are read up to the closing quote. -/
theorem quotedLoop_append (hc : c.rest = text ++ '\x22' :: rest)
    (htext : ∀ d ∈ text, isQuotable d = true) (hcolumn : c.mark.column ≠ 0)
    (hfuel : text.length < fuel) :
    quotedLoop false start fuel acc c = .ok (acc ++ text, c.advance (text.length + 1)) := by
  induction fuel generalizing text acc c with
  | zero => exact absurd hfuel (Nat.not_lt_zero _)
  | succ fuel ih =>
    obtain ⟨run, n, more, rfl, hrun, hmore, hnone⟩ := exists_spaces text
    have hchars : ∀ d ∈ run, isQuotable d = true ∧ d ≠ ' ' := fun d hd =>
      ⟨htext d (List.mem_append_left _ hd), hrun d hd⟩
    rcases n with _ | n
    -- No space follows, so the quote does.
    · obtain rfl := hnone rfl
      simp only [List.replicate_zero, List.append_nil] at hc ⊢
      exact quotedLoop_quote hc hchars hcolumn
    -- Behind the spaces the rest is read, which is shorter.
    · have hquotable : ∀ d ∈ more, isQuotable d = true := fun d hd =>
        htext d (List.mem_append_right _ (List.mem_append_right _ hd))
      rw [List.append_assoc, List.append_assoc] at hc
      have hlater : (c.advance (run.length + (n + 1))).rest = more ++ '\x22' :: rest := by
        rw [Cursor.rest_advance, hc, ← List.append_assoc]
        exact List.drop_left' (by simp)
      have hcolumn' : (c.advance (run.length + (n + 1))).mark.column ≠ 0 := by
        rw [Cursor.column_advance]
        omega
      have hshorter : more.length < fuel := by
        simp only [List.length_append, List.length_replicate] at hfuel
        omega
      rw [quotedLoop_spaces hc hchars (beginsLine_quote hquotable hmore) hcolumn,
        ih hlater hquotable hcolumn' hshorter]
      simp only [Cursor.advance_advance, List.append_assoc, List.length_append,
        List.length_replicate, Nat.add_assoc]

/-- A text between double quotes is a quoted scalar. -/
theorem quoted_text (hc : c.rest = '\x22' :: (text ++ '\x22' :: rest))
    (htext : ∀ d ∈ text, isQuotable d = true) :
    Scalar.quoted false c = .ok (⟨.scalar text .doubleQuoted, c.mark,
      (c.advance (text.length + 2)).mark⟩, c.advance (text.length + 2)) := by
  have hinner : (c.advance 1).rest = text ++ '\x22' :: rest := Cursor.rest_advance_one hc
  have hfuel : text.length < c.rest.length + 1 := by
    rw [hc]
    simp only [List.length_cons, List.length_append]
    omega
  rw [Scalar.quoted, quotedLoop_append hinner htext (Nat.succ_ne_zero _) hfuel,
    Cursor.advance_advance, Nat.add_comm 1]
  rfl

end Scalar

end FileServer.Yaml
