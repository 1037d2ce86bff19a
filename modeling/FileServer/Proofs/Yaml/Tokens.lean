import FileServer.Proofs.Yaml.Lines

/-!
# The tokens of lines

A text of lines, each a name and a scalar with a colon and a blank between them, is one mapping:
its tokens are a sign that opens the mapping, a key and a value for each line, and a sign that
closes it.

* `Lexer.Gives`: some steps of the lexer, and the tokens that leave the queue in them;
* `Lexer.gives_line`: the steps for one line, from in front of it to behind it.
-/

namespace FileServer.Yaml

/-- The tokens of a pair. -/
def Pair.tokenKinds (p : Pair) : List TokenKind :=
  [.key, .scalar p.name .plain, .value, .scalar p.value.text p.value.style]

namespace Lexer

/-! ### What a step leaves alone -/

section

variable {x : Lexer}

theorem inFlow_eq (h : x.outer = []) : x.inFlow = false := by rw [inFlow, h]; rfl

theorem fresh_of_none (h : x.place = none) : ∀ k, x.place = some k → x.isStale k = false := by
  rw [h]
  nofun

/-- A place that is not stale is kept. -/
theorem dropStale_eq (hplace : ∀ k, x.place = some k → x.isStale k = false)
    (houter : x.outer = []) : x.dropStale = .ok x := by
  have hkeep : x.keepFresh x.place = .ok x.place := by
    rcases h : x.place with _ | k
    · rfl
    · rw [keepFresh, hplace k h]
      rfl
  rw [dropStale, hkeep, houter]
  cases x
  subst houter
  rfl

/-- At a column no further left than the innermost collection nothing is closed. -/
theorem closeIndents_eq {column : Int} (h : x.indent ≤ column) : x.closeIndents column = x := by
  have hclose : closeAbove x.mark column x.indent x.indents = ([], x.indent, x.indents) := by
    rcases hindents : x.indents with _ | ⟨around, rest⟩
    · rfl
    · rw [closeAbove, if_neg (Int.not_lt.2 h)]
  rw [closeIndents, hclose]
  simp only [List.append_nil, ite_self]

/-! ### Blanks between tokens -/

/-- In front of a token nothing is skipped. -/
theorem skipBlank_stays
    (h : ∀ c, x.cursor.head? = some c → endsWord (some c) = false ∧ c ≠ '#' ∧ c ≠ '\ufeff')
    (fuel : Nat) : x.skipBlank (fuel + 1) = x := by
  obtain ⟨⟨_ | ⟨c, rest⟩, m⟩, _⟩ := x
  · simp [skipBlank, Cursor.isAt, Cursor.head?, Cursor.skipWhile, Cursor.span, Cursor.skipComment]
  · obtain ⟨hword, hcomment, hmark⟩ := h c rfl
    simp only [endsWord, isBlank, Bool.or_eq_false_iff, beq_eq_false_iff_ne] at hword
    simp [skipBlank, Cursor.isAt, Cursor.head?, Cursor.skipWhile, Cursor.span, Cursor.skipComment,
      hword, hcomment, hmark]

/-- A line end allows a key to begin in the next line. -/
theorem skipBlank_lineFeed {rest : List Char} {m : Mark} (hx : x.cursor = ⟨'\n' :: rest, m⟩)
    (houter : x.outer = []) (fuel : Nat) :
    x.skipBlank (fuel + 1) = skipBlank fuel
      { x with cursor := ⟨rest, Cursor.nextLine m 1⟩, keyAllowed := true } := by
  obtain ⟨cursor, _⟩ := x
  subst hx houter
  simp [skipBlank, Cursor.isAt, Cursor.head?, Cursor.skipWhile, Cursor.span, Cursor.skipComment,
    Cursor.skipBreak, isBreak, inFlow]

/-- A space in front of a token is skipped. -/
theorem skipBlank_space {c : Char} {rest : List Char} (hx : x.cursor.rest = ' ' :: c :: rest)
    (hword : endsWord (some c) = false) (hcomment : c ≠ '#') (fuel : Nat) :
    x.skipBlank (fuel + 1) = { x with cursor := x.cursor.advance 1 } := by
  obtain ⟨⟨_, m⟩, _⟩ := x
  subst hx
  simp only [endsWord, isBlank, Bool.or_eq_false_iff, beq_eq_false_iff_ne] at hword
  simp [skipBlank, Cursor.isAt, Cursor.head?, Cursor.skipWhile, Cursor.span, Cursor.skipComment,
    Cursor.advance, hword, hcomment]

/-! ### Reading a token -/

section

variable {y : Lexer} (hx : x.started = true) (hskip : x.skipBlank (x.cursor.rest.length + 1) = y)
  (hplace : ∀ k, y.place = some k → y.isStale k = false) (houter : y.outer = [])
  (hindent : y.indent ≤ y.mark.column)
include hx hskip hplace houter hindent

/-- A token is read where no blank stands, no key has become impossible, and no collection ends. -/
theorem readNext_cons {c : Char} {rest : List Char} (hrest : y.cursor.rest = c :: rest) :
    x.readNext = y.readToken c rest.head? := by
  rw [readNext, hx, hskip, dropStale_eq hplace houter]
  simp only [Bool.not_true, Bool.false_eq_true, if_false, bind, Except.bind,
    closeIndents_eq hindent, hrest]

/-- At the end of the text everything is closed. -/
theorem readNext_nil (hrest : y.cursor.rest = []) : x.readNext = y.readEnd := by
  rw [readNext, hx, hskip, dropStale_eq hplace houter]
  simp only [Bool.not_true, Bool.false_eq_true, if_false, bind, Except.bind,
    closeIndents_eq hindent, hrest]

end

/-- The characters that do not begin a plain scalar by themselves, one by one. -/
theorem signs_eq : signs = ['-', '?', ':', ',', '[', ']', '\x7b', '\x7d', '#', '&', '*', '!', '|',
    '>', '\'', '\x22', '%', '@', '\x60'] := by
  decide +kernel

/-- A word begins a plain scalar. -/
theorem readToken_plain {c : Char} {next : Option Char} (houter : x.outer = [])
    (hmark : x.cursor.atAnyDocumentMark = false) (hword : endsWord (some c) = false)
    (hc : signs.contains c = false ∨ c = '-' ∧ endsWord next = false) :
    x.readToken c next = x.plainToken := by
  rw [Cursor.atAnyDocumentMark, Bool.or_eq_false_iff] at hmark
  have hflow := inFlow_eq houter
  rcases hc with hc | ⟨rfl, hnext⟩
  · have hbegins : beginsPlain false c next = true := by
      simp only [beginsPlain, hword, hc, Bool.not_false, Bool.and_self, Bool.true_or]
    simp only [signs_eq, List.contains_cons, Bool.or_eq_false_iff, beq_eq_false_iff_ne] at hc
    simp [readToken, hmark, hflow, hbegins, hc]
  · have hbegins : beginsPlain false '-' next = true := by
      rcases next with _ | d
      · exact absurd hnext (by decide)
      · rw [endsWord, Bool.or_eq_false_iff] at hnext
        simp [beginsPlain, hnext.1]
    simp [readToken, hmark, hflow, hbegins, hnext]

/-- A quote begins a quoted scalar. -/
theorem readToken_quote {next : Option Char} (hmark : x.cursor.atAnyDocumentMark = false) :
    x.readToken '\x22' next = x.nodeToken (Scalar.quoted false) := by
  rw [Cursor.atAnyDocumentMark, Bool.or_eq_false_iff] at hmark
  simp [readToken, hmark]

/-- A colon with a blank behind it stands behind a key. -/
theorem readToken_colon (hmark : x.cursor.atAnyDocumentMark = false) :
    x.readToken ':' (some ' ') = x.valueSign := by
  rw [Cursor.atAnyDocumentMark, Bool.or_eq_false_iff] at hmark
  have hends : endsWord (some ' ') = true := rfl
  simp [readToken, hmark, hends]

end

/-! ### Some steps of the lexer -/

/-- With no place for a key nothing is given up, and nothing waits to be decided. -/
theorem settled {x : Lexer} (hplace : x.place = none) (houter : x.outer = []) :
    x.dropStale = .ok x ∧ x.isUndecided = false := by
  refine ⟨dropStale_eq (fresh_of_none hplace) houter, ?_⟩
  rw [isUndecided, hplace, houter]
  rfl

/-- With no place for a key the end of the stream is the last token. -/
theorem run_streamEnd {x : Lexer} (hplace : x.place = none) (houter : x.outer = []) {t : Token}
    {ts : List Token} (hqueue : x.queue = t :: ts) (hend : t.kind = .streamEnd) (fuel : Nat)
    (acc : List Token) : run (fuel + 1) x acc = ((t :: acc).reverse, none) := by
  obtain ⟨hfresh, hdecided⟩ := settled hplace houter
  rw [run, hqueue]
  simp only [hfresh, hdecided, Bool.false_eq_true, if_false, if_pos hend]

/-- From one state to another in so many steps at most, tokens of these kinds leave the queue. -/
def Gives (x : Lexer) (kinds : List TokenKind) (y : Lexer) (steps : Nat) : Prop :=
  ∃ ts : List Token, ∃ n ≤ steps, ts.map Token.kind = kinds ∧
    ∀ fuel acc, run (fuel + n) x acc = run fuel y (ts.reverse ++ acc)

namespace Gives

variable {x y z : Lexer} {ks ls : List TokenKind} {m n : Nat}

theorem refl (x : Lexer) : Gives x [] x 0 := ⟨[], 0, Nat.le_refl 0, rfl, fun _ _ => rfl⟩

theorem mono (h : Gives x ks y m) (hle : m ≤ n) : Gives x ks y n := by
  obtain ⟨ts, i, hi, hrun⟩ := h
  exact ⟨ts, i, Nat.le_trans hi hle, hrun⟩

theorem trans (h : Gives x ks y m) (h' : Gives y ls z n) : Gives x (ks ++ ls) z (m + n) := by
  obtain ⟨ts, i, hi, rfl, hrun⟩ := h
  obtain ⟨us, j, hj, rfl, hrun'⟩ := h'
  refine ⟨ts ++ us, j + i, by omega, List.map_append, fun fuel acc => ?_⟩
  rw [← Nat.add_assoc, hrun, hrun', List.reverse_append, List.append_assoc]

/-- With no token waiting one is read. -/
theorem of_readNext (hqueue : x.queue = []) (h : x.readNext = .ok y) : Gives x [] y 1 := by
  refine ⟨[], 1, Nat.le_refl 1, rfl, fun fuel acc => ?_⟩
  rw [run, hqueue, h]
  rfl

/-- The tokens read stay where they are while the first of them could be a key. -/
theorem of_isUndecided (hqueue : x.queue ≠ []) (hfresh : x.dropStale = .ok x)
    (hundecided : x.isUndecided = true) (h : x.readNext = .ok y) : Gives x [] y 1 := by
  obtain ⟨t, queue, hqueue⟩ := List.exists_cons_of_ne_nil hqueue
  refine ⟨[], 1, Nat.le_refl 1, rfl, fun fuel acc => ?_⟩
  rw [run, hqueue]
  simp only [hfresh, hundecided, if_true, h]
  rfl

/-- With no place for a key the first token leaves. -/
theorem of_queue_cons (hplace : x.place = none) (houter : x.outer = []) {t : Token}
    {ts : List Token} (hqueue : x.queue = t :: ts) (hend : t.kind ≠ .streamEnd) :
    Gives x [t.kind] { x with queue := ts, taken := x.taken + 1 } 1 := by
  obtain ⟨hfresh, hdecided⟩ := settled hplace houter
  refine ⟨[t], 1, Nat.le_refl 1, rfl, fun fuel acc => ?_⟩
  rw [run, hqueue]
  simp only [hfresh, hdecided, Bool.false_eq_true, if_false, if_neg hend]
  rfl

/-- With no place for a key all tokens leave, one after the other. -/
theorem of_queue (hplace : x.place = none) (houter : x.outer = []) {ts : List Token}
    (hqueue : x.queue = ts) (hend : ∀ t ∈ ts, t.kind ≠ .streamEnd) :
    Gives x (ts.map Token.kind) { x with queue := [], taken := x.taken + ts.length } ts.length := by
  induction ts generalizing x with
  | nil =>
    have hx : { x with queue := [] } = x := by rw [← hqueue]
    change Gives x [] { x with queue := [] } 0
    rw [hx]
    exact refl x
  | cons t ts ih =>
    rw [List.forall_mem_cons] at hend
    have hmore := ih (x := { x with queue := ts, taken := x.taken + 1 }) hplace houter rfl hend.2
    have hall := (of_queue_cons hplace houter hqueue hend.1).trans hmore
    simp only [Nat.add_assoc, Nat.add_comm 1] at hall
    exact hall

end Gives

/-! ### The lines of a mapping -/

/-- Between two tokens, with none waiting and no place for a key: either no line has been read or
    the mapping of the lines is open. -/
def resting (opened : Bool) (taken : Nat) (allowed : Bool) (c : Cursor) : Lexer where
  cursor := c
  started := true
  taken := taken
  keyAllowed := allowed
  indent := if opened then 0 else -1
  indents := if opened then [-1] else []

/-- No column lies left of the lines. -/
theorem indent_le (opened : Bool) {column : Nat} : (if opened then 0 else -1 : Int) ≤ column := by
  split <;> omega

theorem gives_queue {opened : Bool} {taken : Nat} {allowed : Bool} {c : Cursor} (ts : List Token)
    (hend : ∀ t ∈ ts, t.kind ≠ .streamEnd) :
    Gives { resting opened taken allowed c with queue := ts } (ts.map Token.kind)
      (resting opened (taken + ts.length) allowed c) ts.length :=
  Gives.of_queue rfl rfl rfl hend

/-- The cursor is at the lines: in front of the line end above them, or behind it. -/
def StandsAt (lines : List Char) (allowed : Bool) (c : Cursor) : Prop :=
  c.rest = '\n' :: lines ∨ c.rest = lines ∧ (lines ≠ [] → allowed = true ∧ c.mark.column = 0)

/-- Between tokens the lexer goes on to the first line. -/
theorem skipBlank_resting (opened : Bool) (taken : Nat) {lines : List Char} {allowed : Bool}
    {c : Cursor} (hc : StandsAt lines allowed c)
    (hlines : ∀ d, lines.head? = some d → endsWord (some d) = false ∧ d ≠ '#' ∧ d ≠ '\ufeff') :
    ∃ allowed' c', (resting opened taken allowed c).skipBlank (c.rest.length + 1) =
        resting opened taken allowed' c' ∧ c'.rest = lines ∧
      (lines ≠ [] → allowed' = true ∧ c'.mark.column = 0) := by
  rcases hc with hc | ⟨hc, hstart⟩
  · obtain ⟨_, m⟩ := c
    subst hc
    refine ⟨true, ⟨lines, Cursor.nextLine m 1⟩, ?_, rfl, fun _ => ⟨rfl, rfl⟩⟩
    rw [skipBlank_lineFeed rfl rfl, List.length_cons]
    exact skipBlank_stays (x := resting opened taken true ⟨lines, _⟩) hlines lines.length
  · refine ⟨allowed, c, skipBlank_stays ?_ _, hc, hstart⟩
    rw [← hc] at hlines
    exact hlines

/-- Behind a line the lexer is at the lines below it. -/
theorem standsAt_below {ended : Bool} {ps : List Pair} {allowed : Bool} {c : Cursor}
    (hc : c.rest = below ended ps) : StandsAt (below ended ps).tail allowed c := by
  rcases below_cases ended ps with h | h
  · rw [h] at hc ⊢
    exact .inr ⟨hc, fun hne => absurd rfl hne⟩
  · rw [h] at hc
    exact .inl hc

/-- A plain scalar is taken as a token. -/
theorem plainToken_eq {x y : Lexer} {p : Scalar.PlainProgress} (hkeep : x.keepPlace = .ok y)
    (hp : Scalar.plain y.inFlow y.indent y.cursor = .ok p) :
    x.plainToken = .ok { y with
      cursor := p.cursor
      keyAllowed := p.gap.broken
      queue := y.queue ++ [⟨.scalar p.text .plain, y.mark, p.stop⟩] } := by
  rw [plainToken, hkeep]
  simp only [bind, Except.bind, hp]
  rfl

/-- A name begins neither a mark between documents nor a comment. -/
theorem begins_name {e : Char} {es : List Char} (he : isLetter e = true) {d : Cursor}
    (hd : d.rest = e :: es) : d.atAnyDocumentMark = false ∧ d.isAt '#' = false := by
  obtain ⟨-, -, hsign, hdot, -⟩ := isLetter_spec he
  have hhead : d.head? = some e := by rw [Cursor.head?, hd]; rfl
  constructor
  · rw [Cursor.atAnyDocumentMark, Cursor.atDocumentMark_of_ne hhead hdot,
      Cursor.atDocumentMark_of_ne hhead (ne_of_signs hsign (by decide +kernel))]
    rfl
  · rw [Cursor.isAt, hhead]
    exact beq_eq_false_iff_ne.2 fun h => ne_of_signs hsign (by decide +kernel) (Option.some.inj h)

/-- Behind the name of a line, which waits with its place kept for a key. -/
def behindName (opened : Bool) (taken : Nat) (m : Mark) (t : Token) (c : Cursor) : Lexer :=
  { resting opened taken false c with queue := [t], place := some ⟨opened, taken, m⟩ }

/-- The name of a line is read. It has to be a key if the mapping is open, as it stands in the
    column of the keys. -/
theorem readNext_name (opened : Bool) (taken : Nat) {name rest : List Char} (hname : IsKey name)
    {allowed : Bool} {c : Cursor} (hc : StandsAt (name ++ ':' :: ' ' :: rest) allowed c) :
    ∃ (t : Token) (d : Cursor), (resting opened taken allowed c).readNext =
        .ok (behindName opened taken d.mark t (d.advance name.length)) ∧
      t.kind = .scalar name .plain ∧ d.rest = name ++ ':' :: ' ' :: rest ∧ d.mark.column = 0 := by
  obtain ⟨e, es, rfl⟩ := List.exists_cons_of_ne_nil hname.ne_nil
  have he := hname.letters e List.mem_cons_self
  obtain ⟨-, hword, hsign, -, hmark⟩ := isLetter_spec he
  have hsolid : ∀ d, ((e :: es) ++ ':' :: ' ' :: rest).head? = some d →
      endsWord (some d) = false ∧ d ≠ '#' ∧ d ≠ '\ufeff' := by
    intro d hd
    obtain rfl := Option.some.inj hd
    exact ⟨hword, ne_of_signs hsign (by decide +kernel), hmark⟩
  -- The blanks in front of the line are skipped, and the name is a plain scalar.
  obtain ⟨allowed', d, hskip, hd, hstart⟩ := skipBlank_resting opened taken hc hsolid
  obtain ⟨rfl, hcolumn⟩ := hstart (List.cons_ne_nil _ _)
  obtain ⟨hdocument, hcomment⟩ := begins_name he hd
  have hplain := Scalar.plain_word hd (List.cons_ne_nil e es) hname.inner (fun _ => rfl) rfl
    hdocument hcomment (if opened then 0 else -1)
  -- It has to be a key just if the mapping is open.
  have hneeded : ((if opened then 0 else -1 : Int) == d.mark.column) = opened := by
    rw [hcolumn]
    rcases opened <;> rfl
  have hkeep : (resting opened taken true d).keepPlace =
      .ok { resting opened taken true d with place := some ⟨opened, taken, d.mark⟩ } := by
    change Except.ok { resting opened taken true d with
      place := some ⟨(if opened then 0 else -1 : Int) == d.mark.column, taken, d.mark⟩ } = _
    rw [hneeded]
  refine ⟨⟨.scalar (e :: es) .plain, d.mark, (d.advance (e :: es).length).mark⟩, d, ?_, rfl, hd,
    hcolumn⟩
  rw [readNext_cons rfl hskip (fresh_of_none rfl) rfl (indent_le opened) hd,
    readToken_plain rfl hdocument hword (.inl hsign), plainToken_eq hkeep hplain]
  rfl

/-- The colon puts the sign of a key in front of the name, and in the first line the sign that opens
    the mapping in front of that. -/
theorem valueSign_eq {opened : Bool} {taken : Nat} {m : Mark} {t : Token} {d : Cursor}
    (hm : m.column = 0) :
    (behindName opened taken m t d).valueSign =
      .ok { resting true taken false (d.advance 1) with
        queue := (if opened then [] else [⟨.blockMappingStart, m, m⟩]) ++
          [⟨.key, m, m⟩, t, ⟨.value, d.mark, (d.advance 1).mark⟩] } := by
  rcases opened
  all_goals simp [valueSign, insertAt, openIndent, behindName, resting, inFlow, pushSign, push,
    mark, hm]

/-- A name that is not too long can still be a key. -/
theorem fresh_behindName (opened : Bool) (taken : Nat) (t : Token) {m : Mark} {d : Cursor}
    (hline : m.line = d.mark.line) (hreach : d.mark.index ≤ m.index + keyReach) :
    ∀ k, (behindName opened taken m t d).place = some k →
      (behindName opened taken m t d).isStale k = false := by
  intro k hk
  obtain rfl := Option.some.inj hk
  have hline' : ¬m.line < d.mark.line := by omega
  have hreach' : ¬m.index + keyReach < d.mark.index := Nat.not_lt.2 hreach
  change (decide (m.line < d.mark.line) || decide (m.index + keyReach < d.mark.index)) = false
  rw [decide_eq_false hline', decide_eq_false hreach']
  rfl

/-- The token in front of a line: the first one opens the mapping. -/
def opening (opened : Bool) : List TokenKind := if opened then [] else [.blockMappingStart]

/-- Behind the name a colon makes a key of it, and the first one opens the mapping. -/
theorem gives_colon (opened : Bool) (taken : Nat) (t : Token) (m : Mark) {d : Cursor}
    {rest : List Char} (hd : d.rest = ':' :: ' ' :: rest) (hline : m.line = d.mark.line)
    (hreach : d.mark.index ≤ m.index + keyReach) (hm : m.column = 0)
    (hcolumn : d.mark.column ≠ 0) :
    ∃ ts, Gives (behindName opened taken m t d) []
        { resting true taken false (d.advance 1) with queue := ts } 1 ∧
      ts.map Token.kind = opening opened ++ [.key, t.kind, .value] := by
  -- The name is in reach, so whether it is a key is still open.
  have hplace := fresh_behindName opened taken t hline hreach
  have hundecided : (behindName opened taken m t d).isUndecided = true := by
    change ((taken == taken) || false) = true
    rw [beq_self_eq_true]
    rfl
  have hskip : (behindName opened taken m t d).skipBlank (d.rest.length + 1) =
      behindName opened taken m t d := by
    refine skipBlank_stays (fun c hc => ?_) _
    obtain rfl : ':' = c := Option.some.inj (hc.symm.trans (congrArg List.head? hd)).symm
    decide
  have hread : (behindName opened taken m t d).readNext =
      (behindName opened taken m t d).valueSign := by
    rw [readNext_cons rfl hskip hplace rfl (indent_le opened) hd]
    exact readToken_colon (Cursor.atAnyDocumentMark_of_column hcolumn)
  refine ⟨_, .of_isUndecided (List.cons_ne_nil _ _) (dropStale_eq hplace rfl) hundecided
    (hread.trans (valueSign_eq hm)), ?_⟩
  rcases opened <;> rfl

/-- A word is a plain scalar up to the end of its line, and the line end is passed with it. -/
theorem plain_below {w : List Char} (hne : w ≠ [])
    (hw : ∀ d ∈ w, endsWord (some d) = false ∧ d ≠ ':') {ended : Bool} {ps : List Pair}
    (hps : ∀ p ∈ ps, p.FitsLine) {c : Cursor} (hc : c.rest = w ++ below ended ps)
    (hmark : c.atAnyDocumentMark = false) (hcomment : c.isAt '#' = false) :
    ∃ p, Scalar.plain false 0 c = .ok p ∧ p.text = w ∧
      StandsAt (below ended ps).tail p.gap.broken p.cursor := by
  rcases below_cases ended ps with h | h
  · have hend : ∀ n, Scalar.plainRun false n (below ended ps) = .ok [] := by
      rw [h]
      exact fun _ => rfl
    have hgap : ((below ended ps).head?.any fun d => endsWord (some d)) = false := by rw [h]; rfl
    exact ⟨_, Scalar.plain_word hc hne hw hend hgap hmark hcomment 0, rfl,
      standsAt_below (Cursor.rest_advance_append hc)⟩
  · rw [h] at hc
    obtain ⟨p, hp, htext, hbroken, hrest, hcolumn⟩ :=
      Scalar.plain_word_line hc hne hw (beginsLine_below hps) hmark hcomment (Int.le_refl 0)
    exact ⟨p, hp, htext, .inr ⟨hrest, fun _ => ⟨hbroken, hcolumn⟩⟩⟩

/-- Behind a colon the blank is skipped. -/
theorem readNext_blank (taken : Nat) {e : Char} {rest : List Char} {c : Cursor}
    (hc : c.rest = ' ' :: e :: rest) (hword : endsWord (some e) = false) (hcomment : e ≠ '#') :
    (c.advance 1).rest = e :: rest ∧ (resting true taken false c).readNext =
      (resting true taken false (c.advance 1)).readToken e rest.head? := by
  have hnext : (c.advance 1).rest = e :: rest := Cursor.rest_advance_one hc
  exact ⟨hnext, readNext_cons rfl (skipBlank_space hc hword hcomment _) (fresh_of_none rfl) rfl
    (indent_le true) hnext⟩

/-- A word behind the blank of a line is read. -/
theorem readNext_word (taken : Nat) {w : List Char} (hw : IsWord w) {ended : Bool}
    {ps : List Pair} (hps : ∀ p ∈ ps, p.FitsLine) {c : Cursor}
    (hc : c.rest = ' ' :: (w ++ below ended ps)) :
    ∃ (t : Token) (allowed : Bool) (d : Cursor), (resting true taken false c).readNext =
        .ok { resting true taken allowed d with queue := [t] } ∧
      t.kind = .scalar w .plain ∧ StandsAt (below ended ps).tail allowed d := by
  obtain ⟨e, es, rfl, hword, hcomment, hsign⟩ := hw.first
  rw [List.cons_append] at hc
  obtain ⟨hnext, hread⟩ := readNext_blank taken hc hword hcomment
  have hdocument : (c.advance 1).atAnyDocumentMark = false :=
    Cursor.atAnyDocumentMark_of_column (Nat.succ_ne_zero _)
  have hat : (c.advance 1).isAt '#' = false := by
    rw [Cursor.isAt, Cursor.head?, hnext]
    exact beq_eq_false_iff_ne.2 fun h => hcomment (Option.some.inj h)
  rw [readToken_plain rfl hdocument hword (hsign _)] at hread
  obtain ⟨p, hplain, hp, hstands⟩ := plain_below (List.cons_ne_nil e es)
    (fun d hd => (hw.inner d hd).2) hps hnext hdocument hat
  have hkeep : (resting true taken false (c.advance 1)).keepPlace =
      .ok (resting true taken false (c.advance 1)) := rfl
  exact ⟨⟨.scalar p.text .plain, (c.advance 1).mark, p.stop⟩, p.gap.broken, p.cursor,
    hread.trans (plainToken_eq hkeep hplain), congrArg (TokenKind.scalar · .plain) hp, hstands⟩

/-- A text between quotes behind the blank of a line is read. -/
theorem readNext_quoted (taken : Nat) {text : List Char}
    (htext : ∀ d ∈ text, isQuotable d = true) {ended : Bool} {ps : List Pair} {c : Cursor}
    (hc : c.rest = ' ' :: '\x22' :: (text ++ '\x22' :: below ended ps)) :
    ∃ (t : Token) (d : Cursor), (resting true taken false c).readNext =
        .ok { resting true taken false d with queue := [t] } ∧
      t.kind = .scalar text .doubleQuoted ∧ StandsAt (below ended ps).tail false d := by
  obtain ⟨hnext, hread⟩ := readNext_blank taken hc rfl (by decide)
  have hquoted := Scalar.quoted_text hnext htext
  rw [readToken_quote (Cursor.atAnyDocumentMark_of_column (Nat.succ_ne_zero _))] at hread
  refine ⟨⟨.scalar text .doubleQuoted, (c.advance 1).mark,
    ((c.advance 1).advance (text.length + 2)).mark⟩, (c.advance 1).advance (text.length + 2),
    hread.trans ?_, rfl, standsAt_below ?_⟩
  · change (Scalar.quoted false (c.advance 1)).bind _ = _
    rw [hquoted]
    rfl
  · have hquotes : '\x22' :: (text ++ '\x22' :: below ended ps) =
        ('\x22' :: text ++ ['\x22']) ++ below ended ps := by simp
    rw [Cursor.rest_advance, hnext, hquotes]
    exact List.drop_left' (by simp)

/-- The scalar of a line is read, perhaps with the line end behind it. -/
theorem readNext_scalar (taken : Nat) {s : Scalar} (hs : s.FitsLine) {ended : Bool}
    {ps : List Pair} (hps : ∀ p ∈ ps, p.FitsLine) {c : Cursor}
    (hc : c.rest = ' ' :: (s.written ++ below ended ps)) :
    ∃ (t : Token) (allowed : Bool) (d : Cursor), (resting true taken false c).readNext =
        .ok { resting true taken allowed d with queue := [t] } ∧
      t.kind = .scalar s.text s.style ∧ StandsAt (below ended ps).tail allowed d := by
  rcases hs with ⟨hword⟩ | ⟨htext⟩
  · exact readNext_word taken hword hps hc
  · rw [Scalar.written, if_pos rfl, List.cons_append, List.append_assoc] at hc
    obtain ⟨t, d, h⟩ := readNext_quoted taken htext hc
    exact ⟨t, false, d, h⟩

/-- The name of a line and the colon behind it give a key. -/
theorem gives_name (opened : Bool) (taken : Nat) {name rest : List Char} (hname : IsKey name)
    (hreach : name.length ≤ keyReach) {allowed : Bool} {c : Cursor}
    (hc : StandsAt (name ++ ':' :: ' ' :: rest) allowed c) :
    ∃ (taken' : Nat) (d : Cursor), Gives (resting opened taken allowed c)
        (opening opened ++ [.key, .scalar name .plain, .value]) (resting true taken' false d) 6 ∧
      d.rest = ' ' :: rest := by
  obtain ⟨t, d, hread, ht, hd, hcolumn⟩ := readNext_name opened taken hname hc
  have hcolon : (d.advance name.length).rest = ':' :: ' ' :: rest :=
    Cursor.rest_advance_append hd
  have hbehind : (d.advance name.length).mark.column ≠ 0 := by
    have hpos := List.length_pos_iff.2 hname.ne_nil
    rw [Cursor.column_advance]
    omega
  -- The colon behind the name puts the sign of a key in front of it.
  obtain ⟨ts, hkey, hts⟩ :=
    gives_colon opened taken t d.mark hcolon rfl (Nat.add_le_add_left hreach _) hcolumn hbehind
  rw [ht] at hts
  have hkinds : ∀ k ∈ ts.map Token.kind, k ≠ .streamEnd := by
    rw [hts]
    rcases opened <;> simp [opening]
  have hcount : ts.length ≤ 4 := by
    rw [← List.length_map, hts]
    rcases opened <;> simp [opening]
  have hall := ((Gives.of_readNext rfl hread).trans hkey).trans
    (gives_queue ts fun u hu => hkinds _ (List.mem_map_of_mem hu))
  rw [hts] at hall
  exact ⟨_, _, hall.mono (by omega), Cursor.rest_advance_one hcolon⟩

/-- The scalar of a line gives a token. -/
theorem gives_scalar (taken : Nat) {s : Scalar} (hs : s.FitsLine) {ended : Bool} {ps : List Pair}
    (hps : ∀ p ∈ ps, p.FitsLine) {c : Cursor} (hc : c.rest = ' ' :: (s.written ++ below ended ps)) :
    ∃ (taken' : Nat) (allowed : Bool) (d : Cursor), Gives (resting true taken false c)
        [.scalar s.text s.style] (resting true taken' allowed d) 2 ∧
      StandsAt (below ended ps).tail allowed d := by
  obtain ⟨t, allowed, d, hread, ht, hd⟩ := readNext_scalar taken hs hps hc
  have hall := (Gives.of_readNext rfl hread).trans (gives_queue [t] (by simp [ht]))
  rw [List.map_singleton, ht] at hall
  exact ⟨_, allowed, d, hall, hd⟩

/-- A line gives its tokens. -/
theorem gives_line (opened : Bool) (taken : Nat) {p : Pair} (hp : p.FitsLine)
    (hreach : p.name.length ≤ keyReach) {ended : Bool} {ps : List Pair}
    (hps : ∀ q ∈ ps, q.FitsLine) {allowed : Bool} {c : Cursor}
    (hc : StandsAt (p.line ++ below ended ps) allowed c) :
    ∃ (taken' : Nat) (allowed' : Bool) (d : Cursor), Gives (resting opened taken allowed c)
        (opening opened ++ p.tokenKinds) (resting true taken' allowed' d) 8 ∧
      StandsAt (below ended ps).tail allowed' d := by
  rw [Pair.line, List.append_assoc, List.cons_append, List.cons_append] at hc
  obtain ⟨n, d, hname, hd⟩ := gives_name opened taken hp.name hreach hc
  obtain ⟨n', allowed', e, hscalar, he⟩ := gives_scalar n hp.value hps hd
  have hall := hname.trans hscalar
  rw [List.append_assoc] at hall
  exact ⟨n', allowed', e, hall, he⟩

/-- The lines below the first one give their tokens. -/
theorem gives_below (taken : Nat) {ended : Bool} {ps : List Pair} (hps : ∀ p ∈ ps, p.FitsLine)
    (hreach : ∀ p ∈ ps, p.name.length ≤ keyReach) {allowed : Bool} {c : Cursor}
    (hc : StandsAt (below ended ps).tail allowed c) :
    ∃ (taken' : Nat) (allowed' : Bool) (d : Cursor), Gives (resting true taken allowed c)
        (ps.flatMap Pair.tokenKinds) (resting true taken' allowed' d) (8 * ps.length) ∧
      StandsAt [] allowed' d := by
  induction ps generalizing taken allowed c with
  | nil =>
    refine ⟨taken, allowed, c, Gives.refl _, ?_⟩
    rcases ended <;> exact hc
  | cons p ps ih =>
    have hps' : ∀ q ∈ ps, q.FitsLine := fun q hq => hps q (List.mem_cons_of_mem p hq)
    obtain ⟨taken', allowed', d, hline, hd⟩ :=
      gives_line true taken (hps p List.mem_cons_self) (hreach p List.mem_cons_self) hps' hc
    obtain ⟨taken'', allowed'', e, hlines, he⟩ :=
      ih taken' hps' (fun q hq => hreach q (List.mem_cons_of_mem p hq)) hd
    refine ⟨taken'', allowed'', e, (hline.trans hlines).mono ?_, he⟩
    rw [List.length_cons]
    omega

/-- A text begins with the token that begins every stream. -/
theorem gives_start (cs : List Char) :
    Gives { cursor := ⟨cs, {}⟩ } [.streamStart] (resting false 1 true ⟨cs, {}⟩) 2 :=
  (Gives.of_readNext rfl rfl).trans (gives_queue [⟨.streamStart, {}, {}⟩] (by decide))

/-- Behind the lines the mapping ends, and then the stream. -/
theorem gives_end (taken : Nat) {allowed : Bool} {c : Cursor} (hc : StandsAt [] allowed c) :
    ∃ (x : Lexer) (t : Token), Gives (resting true taken allowed c) [.blockEnd] x 2 ∧
      t.kind = .streamEnd ∧ ∀ fuel acc, run (fuel + 1) x acc = ((t :: acc).reverse, none) := by
  obtain ⟨allowed', ⟨_, m⟩, hskip, rfl, -⟩ := skipBlank_resting true taken hc nofun
  let n : Mark := if m.column = 0 then m else ⟨m.index, m.line + 1, 0⟩
  have hindent : (0 : Int) ≤ m.column := Int.natCast_nonneg _
  have hread : (resting true taken allowed c).readNext =
      .ok { resting false taken false ⟨[], n⟩ with
        queue := [⟨.blockEnd, n, n⟩, ⟨.streamEnd, n, n⟩] } := by
    rw [readNext_nil rfl hskip (fresh_of_none rfl) rfl hindent rfl]
    rfl
  refine ⟨_, ⟨.streamEnd, n, n⟩, (Gives.of_readNext rfl hread).trans
    (Gives.of_queue_cons rfl rfl rfl ?_), rfl, run_streamEnd rfl rfl rfl rfl⟩
  exact TokenKind.noConfusion

/-- The tokens of lines. -/
theorem tokens_lines {ps : List Pair} (hne : ps ≠ []) (hps : ∀ p ∈ ps, p.FitsLine)
    (hreach : ∀ p ∈ ps, p.name.length ≤ keyReach) (ended : Bool) :
    ∃ ts, tokens (linesText ended ps) = (ts, none) ∧
      ts.map Token.kind = [.streamStart, .blockMappingStart] ++ ps.flatMap Pair.tokenKinds ++
        [.blockEnd, .streamEnd] := by
  -- The first line opens the mapping, the others only go on with it.
  obtain ⟨p, ps, rfl⟩ := List.exists_cons_of_ne_nil hne
  rw [List.forall_mem_cons] at hps hreach
  have hstands : StandsAt (p.line ++ below ended ps) true ⟨linesText ended (p :: ps), {}⟩ :=
    .inr ⟨linesText_cons ended p ps, fun _ => ⟨rfl, rfl⟩⟩
  obtain ⟨taken, allowed, c, hfirst, hc⟩ := gives_line false 1 hps.1 hreach.1 hps.2 hstands
  obtain ⟨taken', allowed', d, hothers, hd⟩ := gives_below taken hps.2 hreach.2 hc
  obtain ⟨x, t, hlast, ht, hstop⟩ := gives_end taken' hd
  obtain ⟨ts, n, hn, hkinds, hrun⟩ :=
    (((gives_start (linesText ended (p :: ps))).trans hfirst).trans hothers).trans hlast
  -- As many steps are allowed as lines that long may need.
  have hfuel : n + 1 ≤ 8 * ((linesText ended (p :: ps)).length + 4) := by
    have hlength := length_le_length_below ended ps
    rw [linesText_cons, List.length_append]
    omega
  obtain ⟨fuel, hfuel⟩ := Nat.exists_eq_add_of_le' hfuel
  refine ⟨ts ++ [t], ?_, ?_⟩
  · rw [tokens, hfuel, Nat.add_comm n, ← Nat.add_assoc, hrun, hstop]
    simp
  · rw [List.map_append, hkinds, List.map_singleton, ht]
    simp [opening]

end Lexer

end FileServer.Yaml
