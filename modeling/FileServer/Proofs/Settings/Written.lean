import FileServer.Proofs.Settings
import FileServer.Proofs.Yaml.Document
import FileServer.Proofs.Yaml.Value
import FileServer.Settings.Document

/-!
# Settings in lines

A text of lines that each set a setting, in whatever order and with lines about other things among
them, gives the defaults with those settings replaced, if they pass the check, and the complaint of
the check if they do not (`Settings.lines_override`). A value is written as its kind asks for
(`Setting.Value.scalar`) and read back by the form of its setting (`Setting.read_scalar`); the order
of the lines does not matter, since each of them changes one setting and no other
(`Setting.get_set`).
-/

namespace FileServer

open Yaml

namespace Setting

/-! ### Values -/

/-- What a setting is. -/
def get (s : Settings) : Setting → Value
  | listenAddress => .text s.listenAddress
  | listenPort => .natural s.listenPort
  | backlog => .whole s.backlog
  | documentRoot => .text s.documentRoot
  | staticFolder => .text s.staticFolder
  | dynamicFolder => .text s.dynamicFolder
  | notFoundPage => .text s.notFoundPage
  | chunkSize => .natural s.chunkSize
  | maxRequestSize => .natural s.maxRequestSize
  | inFlight => .natural s.inFlight

/-- The values of a form: the numbers within its limits, and the texts that can be written between
    quotes as they are. -/
def Form.Admits : Form → Value → Prop
  | unsigned limit _, .natural n => n ≤ limit
  | signed least greatest _, .whole n => least ≤ n ∧ n ≤ greatest
  | text _, .text s => ∀ c ∈ s.toList, isQuotable c = true
  | _, _ => False

/-- How a value is written: a number in decimal, a text between double quotes. -/
def Value.scalar : Value → Scalar
  | natural n => .ofInt n
  | whole n => .ofInt n
  | text s => .ofString s

/-- The line that sets a setting to a value. -/
def pair (f : Setting) (v : Value) : Pair := ⟨f.name.toList, v.scalar⟩

variable {f g : Setting} {v : Value} {s s' : Settings}

theorem mem_all (f : Setting) : f ∈ all := by
  rcases f <;> decide

theorem nodup_all : all.Nodup := by decide

/-- Settings that agree on every setting are the same. -/
theorem eq_of_get (h : ∀ f : Setting, f.get s = f.get s') : s = s' := by
  obtain ⟨_, _, _, _, _, _, _, _, _, _⟩ := s
  obtain ⟨_, _, _, _, _, _, _, _, _, _⟩ := s'
  have h₁ := h listenAddress
  have h₂ := h listenPort
  have h₃ := h backlog
  have h₄ := h documentRoot
  have h₅ := h staticFolder
  have h₆ := h dynamicFolder
  have h₇ := h notFoundPage
  have h₈ := h chunkSize
  have h₉ := h maxRequestSize
  have h₁₀ := h inFlight
  simp only [get, Value.text.injEq, Value.natural.injEq, Value.whole.injEq] at *
  simp only [*]

/-- Setting a setting changes it and no other. -/
theorem get_set (h : f.form.Admits v) (g : Setting) :
    g.get (f.set s v) = if g = f then v else g.get s := by
  rcases f <;> rcases v <;> first | exact h.elim | (rcases g <;> rfl)

/-- The limits of the settings fit into 64 bits. -/
theorem limit_lt {limit : Nat} {called : String} (h : f.form = .unsigned limit called) :
    limit < Nat.pow 2 64 := by
  rcases f
  all_goals
    simp only [form, Form.unsigned.injEq, reduceCtorEq] at h
  all_goals
    rw [← h.1]
    decide

theorem limits_le {least greatest : Int} {called : String}
    (h : f.form = .signed least greatest called) :
    -9223372036854775808 ≤ least ∧ greatest < 9223372036854775808 := by
  rcases f
  all_goals
    simp only [form, Form.signed.injEq, reduceCtorEq] at h
  rw [← h.1, ← h.2.1]
  decide

/-- A value is read back from how it is written. -/
theorem read_scalar (h : f.form.Admits v) : f.form.read v.scalar = .ok v := by
  rcases hform : f.form with ⟨limit, called⟩ | ⟨least, greatest, called⟩ | ⟨called⟩
  all_goals
    rw [hform] at h
    rcases v with n | n | t
  all_goals try exact h.elim
  · have hle : n ≤ limit := h
    rw [Form.read, Value.scalar, Scalar.unsigned?_ofInt (Nat.lt_of_le_of_lt hle (limit_lt hform))]
    exact if_pos hle
  · obtain ⟨hleast, hgreatest⟩ : least ≤ n ∧ n ≤ greatest := h
    obtain ⟨hleast', hgreatest'⟩ := limits_le hform
    rw [Form.read, Value.scalar, Scalar.signed?_ofInt (Int.le_trans hleast' hleast)
      (Int.lt_of_le_of_lt hgreatest hgreatest')]
    exact if_pos ⟨hleast, hgreatest⟩
  · rw [Form.read, Value.scalar, Scalar.ofString, String.ofList_toList]

/-- The names of the settings need no quotes and lie within the reach of a key. -/
theorem isKey_name (f : Setting) : IsKey f.name.toList := by
  refine ⟨?_, List.all_eq_true.1 ?_⟩
  all_goals rcases f <;> decide +kernel

theorem length_name_le (f : Setting) : f.name.toList.length ≤ Lexer.keyReach := by
  rcases f <;> decide +kernel

/-- A line that sets a setting is one. -/
theorem fitsLine_pair (h : f.form.Admits v) : (f.pair v).FitsLine := by
  refine ⟨isKey_name f, ?_⟩
  change v.scalar.FitsLine
  rcases v with n | n | t
  · exact Scalar.fitsLine_ofInt n
  · exact Scalar.fitsLine_ofInt n
  · rcases hform : f.form
    all_goals
      rw [hform] at h
    all_goals try exact h.elim
    exact Scalar.fitsLine_ofString h

theorem ofName?_name (f : Setting) : ofName? f.name.toList = some f := by
  rcases f <;> decide +kernel

theorem ofName?_eq_none {name : List Char} (h : ∀ f : Setting, f.name.toList ≠ name) :
    ofName? name = none :=
  List.find?_eq_none.2 fun f _ => by simpa using h f

/-- The lines that set the settings of a choice. -/
def pairs (choice : Setting → Option Value) : List Pair :=
  all.filterMap fun f => (choice f).map f.pair

end Setting

namespace Settings

/-- A setting of a choice is replaced. -/
def choose (choice : Setting → Option Setting.Value) (s : Settings) (f : Setting) : Settings :=
  (choice f).elim s (f.set s)

/-- The defaults, with the settings of a choice in place of theirs. -/
def overridden (choice : Setting → Option Setting.Value) : Settings :=
  Setting.all.foldl (choose choice) {}

/-- A line that sets no setting: a name that is none of theirs, within the reach of a key, and any
    scalar that fits behind it. -/
structure PassedOver (p : Pair) : Prop where
  fitsLine : p.FitsLine
  reach : p.name.length ≤ Lexer.keyReach
  foreign : ∀ f : Setting, f.name.toList ≠ p.name

/-- The settings that lines set. -/
def named (lines : List Pair) : List Setting := lines.filterMap fun p => Setting.ofName? p.name

variable {choice : Setting → Option Setting.Value}

/-- In whatever order settings are replaced, each one is what the choice says. -/
theorem get_foldl_choose (h : ∀ f v, choice f = some v → f.form.Admits v) (f : Setting)
    (fs : List Setting) (s : Settings) :
    f.get (fs.foldl (choose choice) s) =
      if f ∈ fs then (choice f).getD (f.get s) else f.get s := by
  induction fs generalizing s with
  | nil => rfl
  | cons g fs ih =>
    -- The first replacement is about one setting only.
    have hchoose : f.get (choose choice s g) =
        if f = g then (choice f).getD (f.get s) else f.get s := by
      rcases hg : choice g with _ | v
      · split
        · subst_vars
          rw [choose, hg]
          rfl
        · rw [choose, hg]
          rfl
      · rw [choose, hg, Option.elim_some, Setting.get_set (h g v hg)]
        split
        · subst_vars
          rw [hg]
          rfl
        · rfl
    rw [List.foldl_cons, ih, hchoose]
    rcases eq_or_ne f g with rfl | hne
    · simp only [List.mem_cons_self, if_true]
      rcases choice f <;> simp
    · simp [hne]

section

variable {d : Document} {start m n : Mark} {fuel : Nat} {given : List Setting} {s : Settings}
  {pieces : List (Piece × Mark)}

/-- A pair that sets a setting is read. -/
theorem readPairs_pair {f : Setting} {v : Setting.Value} (h : f.form.Admits v) (hf : f ∉ given) :
    readPairs d start (fuel + 1) given s
        ((.scalar ⟨f.name.toList, .plain, none⟩, m) :: (.scalar v.scalar, n) :: pieces) =
      readPairs d start fuel (f :: given) (f.set s v) pieces := by
  simp only [readPairs, nameOf, Document.resolve, bind, Except.bind, Setting.ofName?_name,
    if_neg hf, Setting.read, Setting.read_scalar h]

/-- A pair with another name is passed over. -/
theorem readPairs_foreign {name : List Char} {value : Scalar}
    (h : ∀ f : Setting, f.name.toList ≠ name) :
    readPairs d start (fuel + 1) given s
        ((.scalar ⟨name, .plain, none⟩, m) :: (.scalar value, n) :: pieces) =
      readPairs d start fuel given s pieces := by
  simp only [readPairs, nameOf, Document.resolve, bind, Except.bind, Setting.ofName?_eq_none h,
    skipNode, if_true]

end

/-- The pairs of a mapping are read one after the other. -/
theorem readPairs_lines (d : Document) (start : Mark) {lines : List Pair}
    (hchoice : ∀ f v, choice f = some v → f.form.Admits v)
    (hlines : ∀ p ∈ lines,
      (∃ f v, choice f = some v ∧ p = f.pair v) ∨ ∀ f : Setting, f.name.toList ≠ p.name)
    {given : List Setting} (hgiven : ∀ f ∈ given, f ∉ named lines) (hnodup : (named lines).Nodup)
    {pieces : List (Piece × Mark)}
    (hpieces : pieces.map Prod.fst = (lines.flatMap Pair.scalars).map Piece.scalar ++ [.mappingEnd])
    {fuel : Nat} (hfuel : lines.length < fuel) (s : Settings) :
    readPairs d start fuel given s pieces = .ok ((named lines).foldl (choose choice) s) := by
  induction lines generalizing given pieces fuel s with
  | nil =>
    obtain ⟨fuel, rfl⟩ := Nat.exists_eq_add_one_of_ne_zero (Nat.ne_zero_of_lt hfuel)
    obtain ⟨⟨_, m⟩, _, rfl, rfl, hrest⟩ := List.map_eq_cons_iff.1 hpieces
    rfl
  | cons p lines ih =>
    obtain ⟨fuel, rfl⟩ := Nat.exists_eq_add_one_of_ne_zero (Nat.ne_zero_of_lt hfuel)
    have hfuel' : lines.length < fuel := Nat.lt_of_succ_lt_succ hfuel
    obtain ⟨⟨_, m⟩, _, rfl, rfl, hvalue⟩ := List.map_eq_cons_iff.1 hpieces
    obtain ⟨⟨_, n⟩, pieces, rfl, rfl, hbehind⟩ := List.map_eq_cons_iff.1 hvalue
    rw [List.forall_mem_cons] at hlines
    rcases hlines.1 with ⟨f, v, hf, rfl⟩ | hforeign
    -- The pair sets a setting, which no later one may set again.
    · have hname : named (f.pair v :: lines) = f :: named lines :=
        List.filterMap_cons_some (Setting.ofName?_name f)
      rw [hname] at hgiven hnodup ⊢
      obtain ⟨hfresh, hnodup⟩ := List.nodup_cons.1 hnodup
      have hnot : f ∉ given := fun hmem => hgiven f hmem List.mem_cons_self
      have hgiven' : ∀ g ∈ f :: given, g ∉ named lines := List.forall_mem_cons.2
        ⟨hfresh, fun g hg hmem => hgiven g hg (List.mem_cons_of_mem f hmem)⟩
      have hset : choose choice s f = f.set s v := by rw [choose, hf]; rfl
      rw [List.foldl_cons, hset, ← ih hlines.2 hgiven' hnodup hbehind hfuel']
      exact readPairs_pair (hchoice f v hf) hnot
    -- The pair is about something else.
    · have hname : named (p :: lines) = named lines :=
        List.filterMap_cons_none (Setting.ofName?_eq_none hforeign)
      rw [hname] at hgiven hnodup ⊢
      rw [← ih hlines.2 hgiven hnodup hbehind hfuel']
      exact readPairs_foreign hforeign

/-- The settings that the lines of a choice set are those that it has values for. -/
theorem named_pairs (choice : Setting → Option Setting.Value) :
    named (Setting.pairs choice) = Setting.all.filter fun f => (choice f).isSome := by
  rw [Setting.pairs, named, List.filterMap_filterMap, ← List.filterMap_eq_filter]
  refine List.filterMap_congr fun f _ => ?_
  rcases hf : choice f with _ | v
  · simp [hf, Option.guard]
  · simp [hf, Option.guard, Setting.pair, Setting.ofName?_name]

theorem named_of_passedOver {others : List Pair} (h : ∀ p ∈ others, PassedOver p) :
    named others = [] :=
  List.filterMap_eq_nil_iff.2 fun p hp => Setting.ofName?_eq_none (h p hp).foreign

section

variable {others lines : List Pair} (hchoice : ∀ f v, choice f = some v → f.form.Admits v)
  (hothers : ∀ p ∈ others, PassedOver p) (hlines : lines.Perm (Setting.pairs choice ++ others))
include hothers hlines

/-- In whatever order the lines are, they set the settings of the choice, each one once. -/
theorem perm_named : (named lines).Perm (Setting.all.filter fun f => (choice f).isSome) := by
  have hperm : (named lines).Perm (named (Setting.pairs choice ++ others)) := hlines.filterMap _
  rwa [named, named, List.filterMap_append, ← named, ← named, ← named, named_of_passedOver hothers,
    List.append_nil, named_pairs] at hperm

/-- Every line sets a setting of the choice or none. -/
theorem cases_of_mem {p : Pair} (hp : p ∈ lines) :
    (∃ f v, choice f = some v ∧ p = f.pair v) ∨ PassedOver p := by
  rcases List.mem_append.1 (hlines.mem_iff.1 hp) with hp | hp
  · obtain ⟨f, -, hf⟩ := List.mem_filterMap.1 hp
    obtain ⟨v, hv, rfl⟩ := Option.map_eq_some_iff.1 hf
    exact .inl ⟨f, v, hv, rfl⟩
  · exact .inr (hothers p hp)

include hchoice

/-- What the lines say, one after the other, is the choice. -/
theorem foldl_named : (named lines).foldl (choose choice) {} = overridden choice := by
  refine Setting.eq_of_get fun f => ?_
  rw [overridden, get_foldl_choose hchoice, get_foldl_choose hchoice, if_pos (Setting.mem_all f)]
  have hmem := (perm_named hothers hlines).mem_iff (a := f)
  rcases hf : choice f with _ | v
  · simp
  · rw [if_pos (hmem.2 (List.mem_filter.2 ⟨Setting.mem_all f, by rw [hf]; rfl⟩))]

/-- The lines make a document with the settings of the choice. -/
theorem ofDocument_lines (hne : lines ≠ []) (ended : Bool) :
    ofDocument (Document.ofText (String.ofList (linesText ended lines))) =
      .ok (overridden choice) := by
  have hfits : ∀ p ∈ lines, p.FitsLine ∧ p.name.length ≤ Lexer.keyReach := by
    intro p hp
    rcases cases_of_mem hothers hlines hp with ⟨f, v, hf, rfl⟩ | hp
    · exact ⟨Setting.fitsLine_pair (hchoice f v hf), Setting.length_name_le f⟩
    · exact ⟨hp.fitsLine, hp.reach⟩
  obtain ⟨pieces, hdocument, hpieces⟩ := Document.ofText_lines hne (fun p hp => (hfits p hp).1)
    (fun p hp => (hfits p hp).2) ended
  obtain ⟨⟨_, start⟩, pieces, rfl, rfl, hpairs⟩ := List.map_eq_cons_iff.1 hpieces
  -- No setting is set twice, and the pieces are enough fuel to read all lines.
  have hnodup : (named lines).Nodup :=
    (perm_named hothers hlines).nodup_iff.2 (Setting.nodup_all.filter _)
  have hfuel : lines.length < pieces.length + 1 := by
    have h := congrArg List.length hpairs
    change (pieces.map Prod.fst).length =
      ((lines.flatMap Pair.scalars).map Piece.scalar ++ [Piece.mappingEnd]).length at h
    rw [List.length_map, List.length_append, List.length_map,
      Pair.length_flatMap (f := Pair.scalars) (n := 2) fun _ => rfl] at h
    omega
  have hread := readPairs_lines { pieces := (.mappingStart, start) :: pieces } start hchoice
    (fun p hp => (cases_of_mem hothers hlines hp).imp_right PassedOver.foreign)
    (fun f hf => absurd hf List.not_mem_nil) hnodup hpairs hfuel {}
  -- In the order of the lines, the settings come out as in the order of the fields.
  rw [foldl_named hchoice hothers hlines] at hread
  rw [hdocument]
  change (readPairs _ start (pieces.length + 1) [] {} pieces).bind _ = _
  rw [hread]
  rfl

end

/-- A text with a line in it is not blank. -/
theorem isBlank_lines {lines : List Pair} (hne : lines ≠ []) (ended : Bool) :
    Text.isBlank (String.ofList (linesText ended lines)) = false := by
  obtain ⟨p, ps, rfl⟩ := List.exists_cons_of_ne_nil hne
  rw [Text.isBlank, String.toList_ofList, linesText_cons, ← Bool.not_eq_true, List.all_eq_true]
  intro hall
  have hcolon : ':' ∈ p.line ++ below ended ps :=
    List.mem_append_left _ (List.mem_append_right _ List.mem_cons_self)
  exact absurd (hall ':' hcolon) (by decide)

/-- What is made of the settings in a document. -/
theorem ofText_eq {text : String} {s : Settings} (hblank : Text.isBlank text = false)
    (h : ofDocument (Document.ofText text) = .ok s) : ofText text = s.check.map fun _ => s := by
  rw [ofText, hblank]
  simp only [Bool.false_eq_true, if_false, h]
  rcases s.check <;> rfl

/-- Settings that a text gives have been checked. -/
theorem check_of_ofText {text : String} {s : Settings} (h : ofText text = .ok s) :
    s.check = .ok () := by
  rcases hblank : Text.isBlank text
  · rcases hdocument : ofDocument (Document.ofText text) with f | t
    · rw [ofText, hblank] at h
      simp only [Bool.false_eq_true, if_false, hdocument] at h
      cases h
    · rw [ofText_eq hblank hdocument] at h
      rcases hcheck : t.check with e | ⟨⟩
      · rw [hcheck] at h
        cases h
      · rw [hcheck] at h
        obtain rfl := Except.ok.inj h
        exact hcheck
  · rw [ofText, hblank] at h
    obtain rfl := Except.ok.inj h
    exact check_default

/-- Lines replace the defaults of the settings that they name, and nothing else. -/
theorem lines_override {choice : Setting → Option Setting.Value} {others lines : List Pair}
    (hchoice : ∀ f v, choice f = some v → f.form.Admits v)
    (hothers : ∀ p ∈ others, PassedOver p)
    (hlines : lines.Perm (Setting.pairs choice ++ others)) (ended : Bool) :
    ofText (String.ofList (linesText ended lines)) =
        (overridden choice).check.map (fun _ => overridden choice) ∧
      (∀ f : Setting, f.get (overridden choice) = (choice f).getD (f.get {})) ∧
      ∀ text s, ofText text = .ok s → s.check = .ok () := by
  have hget : ∀ f : Setting, f.get (overridden choice) = (choice f).getD (f.get {}) := by
    intro f
    rw [overridden, get_foldl_choose hchoice, if_pos (Setting.mem_all f)]
  refine ⟨?_, hget, fun _ _ => check_of_ofText⟩
  rcases eq_or_ne lines [] with rfl | hne
  · -- A text without lines is blank and leaves all settings as they are.
    have hnone : ∀ f, choice f = none := by
      intro f
      have hmem := (perm_named hothers hlines).mem_iff (a := f)
      simpa [named, Setting.mem_all] using hmem
    have hdefault : overridden choice = {} :=
      Setting.eq_of_get fun f => by rw [hget, hnone]; rfl
    rw [hdefault, check_default]
    have hblank : Text.isBlank (String.ofList (linesText ended [])) = true := by
      rw [Text.isBlank, String.toList_ofList]
      rcases ended <;> decide
    rw [ofText, hblank]
    rfl
  · exact ofText_eq (isBlank_lines hne ended)
      (ofDocument_lines hchoice hothers hlines hne ended)

/-! ### Two texts -/

/-- A port and a document root, the latter with signs of the notation in it. -/
def chosen : Setting → Option Setting.Value
  | .listenPort => some (.natural 9000)
  | .documentRoot => some (.text "/srv/a b: #1")
  | _ => none

/-- A line about something else. -/
def remark : Pair := ⟨"Remark".toList, .ofString "no: 7"⟩

theorem passedOver_remark : PassedOver remark where
  fitsLine := ⟨.of_isAlpha (by decide) (List.all_eq_true.1 (by decide +kernel)),
    Scalar.fitsLine_ofString (List.all_eq_true.1 (by decide +kernel))⟩
  reach := by decide +kernel
  foreign := by
    intro f
    rcases f <;> decide +kernel

/-- Lines out of order, with one among them that is passed over. -/
theorem lines_override_mixed :
    ofText "document_root: \x22/srv/a b: #1\x22\nRemark: \x22no: 7\x22\nlisten_port: 9000\n" =
      .ok { documentRoot := "/srv/a b: #1", listenPort := 9000 } := by
  have hchoice : ∀ f v, chosen f = some v → f.form.Admits v := by
    intro f v hf
    rcases f
    -- Only the port and the root are set.
    all_goals try exact absurd hf (Option.some_ne_none v).symm
    all_goals
      obtain rfl := Option.some.inj hf
    · change 9000 ≤ 65535
      decide
    · exact List.all_eq_true.1 (by decide +kernel : "/srv/a b: #1".toList.all isQuotable = true)
  have hothers : ∀ p ∈ [remark], PassedOver p := List.forall_mem_singleton.2 passedOver_remark
  have hlines : ([Setting.documentRoot.pair (.text "/srv/a b: #1"), remark] ++
      [Setting.listenPort.pair (.natural 9000)]).Perm (Setting.pairs chosen ++ [remark]) :=
    List.perm_append_comm
  have hcheck : check { documentRoot := "/srv/a b: #1", listenPort := 9000 } = .ok () := by
    have haddress : address { documentRoot := "/srv/a b: #1", listenPort := 9000 } =
        .ok ⟨0, 0, 0, 0⟩ := address_default
    rw [check, haddress]
    rfl
  have htext := (lines_override hchoice hothers hlines true).1
  change _ = (check { documentRoot := "/srv/a b: #1", listenPort := 9000 }).map _ at htext
  rw [hcheck] at htext
  refine Eq.trans (congrArg ofText ?_) htext
  decide +kernel

/-- A line with a name that lies beyond the reach of a key. -/
def overlong : Pair := ⟨List.replicate 1025 'k', .ofInt 1⟩

/-- A name may be too long: then the text is no document at all. -/
theorem overlong_name_refused :
    (∀ c ∈ overlong.name, c.isAlpha = true) ∧ (∀ f : Setting, f.name.toList ≠ overlong.name) ∧
      ∃ fault, ofText (String.ofList (linesText true
        [Setting.listenPort.pair (.natural 9000), overlong])) = .error (.malformed fault) := by
  refine ⟨List.all_eq_true.1 (by decide +kernel), fun f => by rcases f <;> decide +kernel, ?_⟩
  have hno : (ofDocument (Document.ofText (String.ofList (linesText true
      [Setting.listenPort.pair (.natural 9000), overlong])))).isOk = false := by
    rw [Document.ofText, String.toList_ofList]
    decide +kernel
  rcases hdocument : ofDocument (Document.ofText (String.ofList (linesText true
      [Setting.listenPort.pair (.natural 9000), overlong]))) with fault | s
  · rw [ofText, isBlank_lines (List.cons_ne_nil _ _)]
    simp only [Bool.false_eq_true, if_false, hdocument]
    exact ⟨fault, rfl⟩
  · rw [hdocument] at hno
    cases hno

end Settings

end FileServer
