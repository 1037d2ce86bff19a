import FileServer.Proofs.Http.Reference
import FileServer.Proofs.Resource
import FileServer.Proofs.Text.Utf8

/-!
# Spelling names in targets

Any name that a file can have may stand in a target, if it is spelled with escapes: letters,
digits and four signs may stand for themselves, and every byte may be written as a percent sign
and two digits (`Percent.Spells`). A target of names that are spelled so has the names as its
path (`Target.pathChars?_spelled`), whatever stands in its query. For a spelled name holds no
slash, and it is read as a dot, or as two, only if the name is a dot, or two.

If the first name is one of the two folders, then the path is classified by it, and the file that
it resolves to lies behind the root by just these names
(`Target.path_of_spelled`).
-/

namespace FileServer

namespace Percent

/-- The signs that may stand for themselves beside letters and digits. -/
def plainSigns : List Char := "._~-".toList

/-- A character that may stand for itself. -/
def isPlain (c : Char) : Bool := c.isAlphanum || plainSigns.contains c

/-- A digit for a number, in either case. -/
def IsDigit (n : Nat) (c : Char) : Prop :=
  "0123456789abcdef".toList[n]? = some c ∨ "0123456789ABCDEF".toList[n]? = some c

/-- A text that spells some bytes. -/
inductive Spells : List Char → Bytes → Prop
  | nil : Spells [] []
  | plain {c : Char} {text : List Char} {bs : Bytes} : isPlain c = true → Spells text bs →
      Spells (c :: text) (UInt8.ofNat c.toNat :: bs)
  | escaped {b : UInt8} {high low : Char} {text : List Char} {bs : Bytes} :
      IsDigit (b.toNat / 16) high → IsDigit (b.toNat % 16) low → Spells text bs →
      Spells ('%' :: high :: low :: text) (b :: bs)

end Percent

/-! ### Characters that are used -/

/-- A character that a target shows just where it was written. -/
structure Target.Stays (c : Char) : Prop where
  shows : 0x20 < c.toNat
  ascii : c.toNat < 0x80
  not_slash : isSlash c = false
  not_end : endsPath c = false

namespace Percent

/-- Characters that stand for themselves are no percent signs. -/
theorem of_isPlain {c : Char} (h : isPlain c = true) : c ≠ '%' ∧ Target.Stays c := by
  rw [isPlain, Bool.or_eq_true, List.contains_iff_mem] at h
  obtain ⟨hne, hshows, hascii, hslash, hend⟩ := Bytes.forall_alphanum_or
    (P := fun c => c ≠ '%' ∧ 0x20 < c.toNat ∧ c.toNat < 0x80 ∧ Target.isSlash c = false ∧
      Target.endsPath c = false) (by decide +kernel) (by decide +kernel) h
  exact ⟨hne, hshows, hascii, hslash, hend⟩

/-- The digits for a number have its worth, and no others have. -/
theorem IsDigit.spec {n : Nat} {c : Char} (h : IsDigit n c) :
    isPlain c = true ∧ digit? (UInt8.ofNat c.toNat) = some (UInt8.ofNat n) ∧
      (c = '2' → n = 2) ∧ (c = 'e' ∨ c = 'E' → n = 14) := by
  have hall : ∀ digits ∈ ["0123456789abcdef".toList, "0123456789ABCDEF".toList],
      ∀ p ∈ digits.zipIdx, isPlain p.1 = true ∧
        digit? (UInt8.ofNat p.1.toNat) = some (UInt8.ofNat p.2) ∧
        (p.1 = '2' → p.2 = 2) ∧ (p.1 = 'e' ∨ p.1 = 'E' → p.2 = 14) := by
    decide +kernel
  rcases h with h | h
  · exact hall _ (by decide) (c, n) (List.mk_mem_zipIdx_iff_getElem?.2 h)
  · exact hall _ (by decide) (c, n) (List.mk_mem_zipIdx_iff_getElem?.2 h)

theorem decode_cons_of_ne {b : UInt8} (hb : b ≠ 37) (rest : Bytes) :
    decode (b :: rest) = b :: decode rest := by
  rw [decode]
  exact fun _ _ _ h => absurd h hb

/-- The digits of a byte stand for it. -/
theorem pair?_of_isDigit {b : UInt8} {high low : Char} (hhigh : IsDigit (b.toNat / 16) high)
    (hlow : IsDigit (b.toNat % 16) low) :
    pair? (UInt8.ofNat high.toNat) (UInt8.ofNat low.toNat) = some b := by
  have hbyte : UInt8.ofNat (b.toNat / 16) * 16 + UInt8.ofNat (b.toNat % 16) = b :=
    Bytes.forall_byte
      (P := fun b => UInt8.ofNat (b.toNat / 16) * 16 + UInt8.ofNat (b.toNat % 16) = b)
      (by decide +kernel) b
  rw [pair?, hhigh.spec.2.1, hlow.spec.2.1]
  exact congrArg some hbyte

namespace Spells

variable {text : List Char} {bs : Bytes}

theorem stays (h : Spells text bs) : ∀ c ∈ text, Target.Stays c := by
  induction h with
  | nil => exact fun _ hc => absurd hc List.not_mem_nil
  | plain hc _ ih => exact List.forall_mem_cons.2 ⟨(of_isPlain hc).2, ih⟩
  | escaped hhigh hlow _ ih =>
    have hsign : Target.Stays '%' := ⟨by decide, by decide, by decide, by decide⟩
    exact List.forall_mem_cons.2 ⟨hsign, List.forall_mem_cons.2 ⟨(of_isPlain hhigh.spec.1).2,
      List.forall_mem_cons.2 ⟨(of_isPlain hlow.spec.1).2, ih⟩⟩⟩

/-- What is spelled is read back, whatever follows. -/
theorem decode_append (h : Spells text bs) (rest : Bytes) :
    decode (Bytes.ofChars text ++ rest) = bs ++ decode rest := by
  induction h with
  | nil => rfl
  | @plain c text bs hc _ ih =>
    -- A character that stands for itself is no percent sign.
    obtain ⟨hne, hstays⟩ := of_isPlain hc
    have hbyte : UInt8.ofNat c.toNat ≠ 37 := by
      intro h
      have hnat := congrArg UInt8.toNat h
      rw [UInt8.toNat_ofNat'] at hnat
      have hascii := hstays.ascii
      have hcode : c.toNat = '%'.toNat := by
        change c.toNat % 256 = 37 at hnat
        change c.toNat = 37
        omega
      exact hne (Char.toNat_inj.1 hcode)
    rw [Bytes.ofChars_cons_of_lt hstays.ascii, List.cons_append, decode_cons_of_ne hbyte, ih,
      List.cons_append]
  | @escaped b high low text bs hhigh hlow _ ih =>
    -- An escape is read back from its two digits.
    have hchars : Bytes.ofChars ('%' :: high :: low :: text) =
        37 :: UInt8.ofNat high.toNat :: UInt8.ofNat low.toNat :: Bytes.ofChars text := by
      rw [Bytes.ofChars_cons_of_lt (by decide),
        Bytes.ofChars_cons_of_lt (of_isPlain hhigh.spec.1).2.ascii,
        Bytes.ofChars_cons_of_lt (of_isPlain hlow.spec.1).2.ascii]
      rfl
    rw [hchars, List.cons_append, List.cons_append, List.cons_append, decode,
      pair?_of_isDigit hhigh hlow]
    dsimp only
    rw [ih, List.cons_append]

theorem ne_nil (h : Spells text bs) (hbs : bs ≠ []) : text ≠ [] := by
  rintro rfl
  cases h
  exact hbs rfl

/-- Only a dot is read as a dot. -/
theorem of_dropDot? {rest : List Char} (h : Spells text bs)
    (hdot : Target.dropDot? text = some rest) : ∃ bs', bs = 46 :: bs' ∧ Spells rest bs' := by
  cases h with
  | nil => cases hdot
  | @plain c text bs hc h =>
    rw [Target.dropDot?.eq_def] at hdot
    split at hdot
    · -- The dot itself.
      rename_i heq
      obtain ⟨rfl, rfl⟩ := List.cons.inj heq
      obtain rfl := Option.some.inj hdot
      exact ⟨bs, rfl, h⟩
    · -- No percent sign stands for itself.
      rename_i heq
      exact absurd (List.cons.inj heq).1 (of_isPlain hc).1
    · cases hdot
  | @escaped b high low text bs hhigh hlow h =>
    rw [Target.dropDot?.eq_def] at hdot
    split at hdot
    · -- No escape begins with a dot.
      rename_i heq
      exact absurd (List.cons.inj heq).1 (by decide)
    · -- The digits two and E are those of a dot.
      rename_i heq
      obtain ⟨-, heq⟩ := List.cons.inj heq
      obtain ⟨htwo, heq⟩ := List.cons.inj heq
      obtain ⟨rfl, rfl⟩ := List.cons.inj heq
      split at hdot
      · rename_i he
        obtain rfl := Option.some.inj hdot
        have hquot := hhigh.spec.2.2.1 htwo
        have hrem := hlow.spec.2.2.2 he
        have hb : b = 46 := UInt8.toNat_inj.1 (show b.toNat = 46 by omega)
        exact ⟨bs, by rw [hb], h⟩
      · cases hdot
    · cases hdot

/-- A name is read as a dot only if it is one. -/
theorem isDot_eq_false {name : List Char} (h : Spells text (Bytes.ofChars name))
    (hname : name ≠ Path.here) : Target.isDot text = false := by
  refine beq_eq_false_iff_ne.2 fun hdot => ?_
  obtain ⟨bs, hbs, hnil⟩ := h.of_dropDot? hdot
  cases hnil
  exact hname (Bytes.ofChars_inj.1 (hbs.trans (by decide +kernel)))

/-- A name is read as two dots only if it is two. -/
theorem isDotDot_eq_false {name : List Char} (h : Spells text (Bytes.ofChars name))
    (hname : name ≠ Path.parent) : Target.isDotDot text = false := by
  refine beq_eq_false_iff_ne.2 fun hdot => ?_
  obtain ⟨rest, hfirst, hsecond⟩ := Option.bind_eq_some_iff.1 hdot
  obtain ⟨bs, hbs, hrest⟩ := h.of_dropDot? hfirst
  obtain ⟨bs', rfl, hnil⟩ := hrest.of_dropDot? hsecond
  cases hnil
  exact hname (Bytes.ofChars_inj.1 (hbs.trans (by decide +kernel)))

end Spells

/-- Texts that spell names, one after the other. -/
abbrev SpellAll (texts names : List (List Char)) : Prop :=
  List.Forall₂ (fun text name => Spells text (Bytes.ofChars name)) texts names

/-- What holds of whatever spells one of the names holds of all texts that spell them. -/
theorem SpellAll.forall_mem {P : List Char → Prop} {texts names : List (List Char)}
    (h : SpellAll texts names)
    (hP : ∀ text, ∀ name ∈ names, Spells text (Bytes.ofChars name) → P text) :
    ∀ text ∈ texts, P text := by
  induction h with
  | nil => exact fun _ htext => absurd htext List.not_mem_nil
  | @cons text name texts names htext h ih =>
    exact List.forall_mem_cons.2 ⟨hP text name List.mem_cons_self htext,
      ih fun text name hname => hP text name (List.mem_cons_of_mem _ hname)⟩

/-- Names with slashes between them are read back. -/
theorem decode_intercalate {texts names : List (List Char)} (h : SpellAll texts names)
    (rest : Bytes) : decode (Bytes.ofChars (['/'].intercalate texts) ++ rest) =
      Bytes.ofChars (['/'].intercalate names) ++ decode rest := by
  induction h with
  | nil => rfl
  | @cons text name texts names htext h ih =>
    cases h with
    | nil =>
      rw [List.intercalate_singleton, List.intercalate_singleton]
      exact htext.decode_append rest
    | cons hnext h =>
      have hslash : Bytes.ofChars ['/'] = [47] := by decide +kernel
      rw [List.intercalate_cons_cons, List.intercalate_cons_cons, Bytes.ofChars_append,
        Bytes.ofChars_append, Bytes.ofChars_append, Bytes.ofChars_append, hslash,
        List.append_assoc, List.append_assoc, htext.decode_append, List.append_assoc,
        List.append_assoc, List.singleton_append, decode_cons_of_ne (by decide), ih]
      rfl

end Percent

/-! ### Paths of names -/

/-- What holds of the slash and of the characters of some pieces holds of the path that they
    make. -/
theorem Path.forall_mem_intercalate {P : Char → Prop} {pieces : List (List Char)} (hslash : P '/')
    (hpieces : ∀ piece ∈ pieces, ∀ c ∈ piece, P c) : ∀ c ∈ ['/'].intercalate pieces, P c := by
  induction pieces with
  | nil => exact fun _ hc => absurd hc List.not_mem_nil
  | cons piece pieces ih =>
    obtain ⟨hpiece, hpieces⟩ := List.forall_mem_cons.1 hpieces
    cases pieces with
    | nil => rwa [List.intercalate_singleton]
    | cons next pieces =>
      rw [List.intercalate_cons_cons]
      exact List.forall_mem_append.2 ⟨List.forall_mem_append.2
        ⟨hpiece, List.forall_mem_singleton.2 hslash⟩, ih hpieces⟩

/-- A path begins as its first piece does. -/
theorem Path.head?_intercalate {piece : List Char} (hpiece : piece ≠ [])
    (pieces : List (List Char)) : (['/'].intercalate (piece :: pieces)).head? = piece.head? := by
  obtain ⟨c, cs, rfl⟩ := List.exists_cons_of_ne_nil hpiece
  cases pieces with
  | nil => rw [List.intercalate_singleton]
  | cons next pieces =>
    rw [List.intercalate_cons_cons]
    rfl

namespace Target

theorem cleaned_append {front : List Char} (hfront : ∀ c ∈ front, 0x20 < c.toNat)
    (cs : List Char) : cleaned (front ++ cs) = front ++ cleaned cs := by
  induction front with
  | nil => rfl
  | cons c front ih =>
    obtain ⟨hc, hfront⟩ := List.forall_mem_cons.1 hfront
    rw [List.cons_append, cleaned_cons hc, ih hfront, List.cons_append]

/-- A piece ends at the slash behind it. -/
theorem pieces_append_slash {piece : List Char} (hpiece : ∀ c ∈ piece, isSlash c = false)
    (cs : List Char) : pieces (piece ++ '/' :: cs) = piece :: pieces cs := by
  induction piece with
  | nil => rfl
  | cons c piece ih =>
    obtain ⟨hc, hpiece⟩ := List.forall_mem_cons.1 hpiece
    rw [List.cons_append, pieces, hc, ih hpiece]
    rfl

theorem pieces_of_not_isSlash {piece : List Char} (hpiece : ∀ c ∈ piece, isSlash c = false) :
    pieces piece = [piece] := by
  induction piece with
  | nil => rfl
  | cons c piece ih =>
    obtain ⟨hc, hpiece⟩ := List.forall_mem_cons.1 hpiece
    rw [pieces, hc, ih hpiece]
    rfl

/-- A path falls into the pieces that it was made of. -/
theorem pieces_intercalate {ps : List (List Char)} (hne : ps ≠ [])
    (hps : ∀ piece ∈ ps, ∀ c ∈ piece, isSlash c = false) : pieces (['/'].intercalate ps) = ps := by
  induction ps with
  | nil => exact absurd rfl hne
  | cons piece ps ih =>
    obtain ⟨hpiece, hps⟩ := List.forall_mem_cons.1 hps
    cases ps with
    | nil => rw [List.intercalate_singleton, pieces_of_not_isSlash hpiece]
    | cons next ps =>
      rw [List.intercalate_cons_cons, List.append_assoc, List.singleton_append,
        pieces_append_slash hpiece, ih (List.cons_ne_nil _ _) hps]

/-- Pieces that are no dots are passed through one after the other. -/
theorem follow_eq {ps : List (List Char)} (hne : ps ≠ [])
    (hps : ∀ piece ∈ ps, isDot piece = false ∧ isDotDot piece = false)
    (passed : List (List Char)) :
    (follow passed ps).1.reverse.flatMap (· ++ ['/']) ++ (follow passed ps).2 =
      passed.reverse.flatMap (· ++ ['/']) ++ ['/'].intercalate ps := by
  induction ps generalizing passed with
  | nil => exact absurd rfl hne
  | cons piece ps ih =>
    obtain ⟨⟨hdot, hback⟩, hps⟩ := List.forall_mem_cons.1 hps
    cases ps with
    | nil =>
      rw [follow, hback, hdot, List.intercalate_singleton]
      rfl
    | cons next ps =>
      have hpassed : follow passed (piece :: next :: ps) =
          follow (piece :: passed) (next :: ps) := by
        rw [follow, hback, hdot]
        · rfl
        · exact fun h => absurd h (List.cons_ne_nil _ _)
      rw [hpassed, ih (List.cons_ne_nil _ _) hps, List.reverse_cons, List.flatMap_append,
        List.intercalate_cons_cons, List.flatMap_singleton]
      simp only [List.append_assoc]

/-- A path without dots stays as it is. -/
theorem plainPath_eq {ps : List (List Char)} (hne : ps ≠ [])
    (hps : ∀ piece ∈ ps, isDot piece = false ∧ isDotDot piece = false) :
    plainPath ps = '/' :: ['/'].intercalate ps := by
  have hfollow := follow_eq hne hps []
  rw [plainPath]
  exact congrArg ('/' :: ·) hfollow

/-- A query is left out. -/
theorem withoutQuery_cleaned {query : List Char} (hquery : ∀ c ∈ query.head?, endsPath c = true) :
    withoutQuery (cleaned query) = [] := by
  rcases query with _ | ⟨c, query⟩
  · rfl
  have hc : endsPath c = true := hquery c rfl
  have hshows : 0x20 < c.toNat := by
    rw [endsPath, Bool.or_eq_true, beq_iff_eq, beq_iff_eq] at hc
    rcases hc with rfl | rfl <;> decide
  rw [cleaned_cons hshows]
  exact List.takeWhile_cons_of_neg (by rw [hc]; decide)

/-- A target of characters that stay where they are has the path that they spell. -/
theorem pathChars?_append {valid : List Char → Bool} {text query : List Char} (hne : text ≠ [])
    (hplain : ∀ c ∈ text.head?, isSlash c = false)
    (htext : ∀ c ∈ text, 0x20 < c.toNat ∧ endsPath c = false)
    (hquery : ∀ c ∈ query.head?, endsPath c = true) :
    pathChars? valid ('/' :: (text ++ query)) = spelled? ('/' :: text) := by
  obtain ⟨first, rest, rfl⟩ := List.exists_cons_of_ne_nil hne
  have hfirst : isSlash first = false := hplain first rfl
  -- Nothing of the text is skipped, it names no host, and the query begins behind it.
  have hcleaned : cleaned ('/' :: (first :: rest ++ query)) =
      '/' :: (first :: rest ++ cleaned query) := by
    rw [cleaned_cons (by decide), cleaned_append fun c hc => (htext c hc).1]
  have hhost : namesHost (cleaned ('/' :: (first :: rest ++ query))) = false := by
    rw [hcleaned]
    exact hfirst
  have hcut : withoutQuery (cleaned ('/' :: (first :: rest ++ query))) = '/' :: first :: rest := by
    have htake : withoutQuery (first :: rest ++ cleaned query) =
        first :: rest ++ withoutQuery (cleaned query) :=
      List.takeWhile_append_of_pos fun c hc => by rw [(htext c hc).2, Bool.not_false]
    rw [hcleaned, withoutQuery_cons_of_isSlash rfl, htake, withoutQuery_cleaned hquery,
      List.append_nil]
  rw [pathChars?_eq, reference_of_not_namesHost hhost, hcut]
  refine if_pos ⟨rfl, ?_, rfl⟩
  intro hslash
  obtain rfl : first = '/' := Option.some.inj hslash
  exact Bool.false_ne_true hfirst.symm

end Target

namespace Path

/-- A name that a file can have. -/
structure IsFileName (name : List Char) : Prop extends IsName name where
  ne_parent : name ≠ parent
  no_null : '\x00' ∉ name

/-- The components of a path are the names that it was made of. -/
theorem components_intercalate {names : List (List Char)} (hnames : ∀ name ∈ names, IsName name) :
    components (['/'].intercalate names) = names := by
  induction names with
  | nil => rfl
  | cons name names ih =>
    obtain ⟨hname, hnames⟩ := List.forall_mem_cons.1 hnames
    cases names with
    | nil => rw [List.intercalate_singleton, hname.components_eq]
    | cons next names =>
      rw [List.intercalate_cons_cons, List.append_assoc, List.singleton_append,
        components_append_slash, hname.components_eq, ih hnames, List.singleton_append]

end Path

section

variable {texts names : List (List Char)} (hnames : ∀ name ∈ names, Path.IsFileName name)

include hnames

/-- What spells names falls into pieces, none of which is empty or a dot. -/
theorem Percent.SpellAll.spec (h : SpellAll texts names) : ∀ text ∈ texts,
    (∀ c ∈ text, Target.Stays c) ∧ text ≠ [] ∧
      Target.isDot text = false ∧ Target.isDotDot text = false := by
  refine h.forall_mem fun text name hname hspells => ?_
  have hfile := hnames name hname
  refine ⟨hspells.stays, hspells.ne_nil fun hnil => hfile.ne_nil (Bytes.ofChars_inj.1 hnil), ?_, ?_⟩
  · exact hspells.isDot_eq_false hfile.ne_here
  · exact hspells.isDotDot_eq_false hfile.ne_parent

/-- The path that spelled names spell is that of the names. -/
theorem Target.spelled?_intercalate (hne : texts ≠ []) (h : Percent.SpellAll texts names) :
    spelled? ('/' :: ['/'].intercalate texts) = some ('/' :: ['/'].intercalate names) := by
  have htexts := h.spec hnames
  -- The pieces between the slashes are the texts, and none of them leads up.
  have hpieces : pieces (['/'].intercalate texts) = texts :=
    pieces_intercalate hne fun text htext c hc => ((htexts text htext).1 c hc).not_slash
  have hplain : plainPath texts = '/' :: ['/'].intercalate texts :=
    plainPath_eq hne fun text htext => (htexts text htext).2.2
  have hslash : ∀ cs, Bytes.ofChars ('/' :: cs) = 47 :: Bytes.ofChars cs :=
    Bytes.ofChars_cons_of_lt (by decide)
  have hdecode : Percent.decode (Bytes.ofChars ('/' :: ['/'].intercalate texts)) =
      Bytes.ofChars ('/' :: ['/'].intercalate names) := by
    have hread := Percent.decode_intercalate h []
    rw [List.append_nil, Percent.decode, List.append_nil] at hread
    rw [hslash, hslash, Percent.decode_cons_of_ne (by decide), hread]
  have hnull : '\x00' ∉ '/' :: ['/'].intercalate names := by
    intro hmem
    rcases List.mem_cons.1 hmem with hmem | hmem
    · exact absurd hmem (by decide)
    · refine absurd rfl (Path.forall_mem_intercalate (P := (· ≠ '\x00')) (by decide)
        (fun name hname c hc => ?_) _ hmem)
      rintro rfl
      exact (hnames name hname).no_null hc
  rw [spelled?, List.drop_one, List.tail_cons, hpieces, hplain, unescape?, hdecode,
    Utf8.decode?_ofChars]
  exact if_neg hnull

/-- Names that are spelled are the path, and a query behind them does not matter. -/
theorem Target.pathChars?_spelled {valid : List Char → Bool} (hne : names ≠ [])
    (h : Percent.SpellAll texts names) {query : List Char}
    (hquery : ∀ c ∈ query.head?, endsPath c = true) :
    pathChars? valid ('/' :: (['/'].intercalate texts ++ query)) =
      some ('/' :: ['/'].intercalate names) := by
  have htexts := h.spec hnames
  cases h with
  | nil => exact absurd rfl hne
  | @cons first _ texts _ hfirst h =>
    obtain ⟨hstays, hfirst_ne, -⟩ := htexts first List.mem_cons_self
    have hhead := Path.head?_intercalate hfirst_ne texts
    rw [pathChars?_append _ _ _ hquery,
      Target.spelled?_intercalate hnames (List.cons_ne_nil _ _) (.cons hfirst h)]
    · intro hnil
      rw [hnil] at hhead
      exact hfirst_ne (List.head?_eq_none_iff.1 hhead.symm)
    · intro c hc
      rw [hhead] at hc
      exact (hstays c (List.mem_of_mem_head? hc)).not_slash
    · exact Path.forall_mem_intercalate (by decide) fun text htext c hc =>
        ⟨((htexts text htext).1 c hc).shows, ((htexts text htext).1 c hc).not_end⟩

/-- Names below a folder are what a path of them resolves to. -/
theorem Folders.resolve_names (hne : names ≠ []) (root : String) : ∃ file,
    resolve root (String.ofList ('/' :: ['/'].intercalate names)) = some file ∧
      Path.LeadsDown root.toList names file.toList := by
  have hisName : ∀ name ∈ names, Path.IsName name := fun name hname => (hnames name hname).toIsName
  have hslash : (['/'].intercalate names).head? ≠ some '/' := by
    obtain ⟨name, names, rfl⟩ := List.exists_cons_of_ne_nil hne
    have hname := hnames name List.mem_cons_self
    rw [Path.head?_intercalate hname.ne_nil]
    exact fun h => hname.no_slash (List.mem_of_mem_head? h)
  have hparent : Path.parent ∉ names := fun h => (hnames _ h).ne_parent rfl
  have hpieces : pieces? ('/' :: ['/'].intercalate names) = some names := by
    rw [pieces?, if_neg hslash, Path.components_intercalate hisName]
    exact if_neg hparent
  refine ⟨String.ofList (names.foldl Path.joinChars root.toList), ?_, ?_⟩
  · rw [resolve, String.toList_ofList, hpieces]
    rfl
  · rw [String.toList_ofList]
    exact Path.leadsDown_foldl hisName hne root.toList

/-- A path of names lies under its first name. -/
theorem isUnder_names {folder : List Char} (hhead : names.head? = some folder)
    (hlen : 2 ≤ names.length) :
    isUnder folder ('/' :: ['/'].intercalate names) = true := by
  rcases names with _ | ⟨first, _ | ⟨next, names⟩⟩
  · cases hhead
  · exact absurd hlen (by simp)
  obtain rfl := Option.some.inj hhead
  have hnext := hnames next (List.mem_cons_of_mem _ List.mem_cons_self)
  obtain ⟨c, rest, hcons⟩ : ∃ c rest, ['/'].intercalate (next :: names) = c :: rest := by
    refine List.exists_cons_of_ne_nil fun hnil => hnext.ne_nil ?_
    rw [← List.head?_eq_none_iff, ← Path.head?_intercalate hnext.ne_nil names, hnil, List.head?_nil]
  refine isUnder_iff.2 ⟨c, rest, ?_⟩
  rw [List.intercalate_cons_cons, hcons, List.append_assoc, List.singleton_append]

/-- Under settings that make sense, a path of names is served from the folder that it begins
    with. -/
theorem Settings.Valid.classify_names {s : Settings} (hs : s.Valid) {r : Resource} {folder : String}
    (hfolder : s.folders.folder? r = some folder) (hhead : names.head? = some folder.toList)
    (hlen : 2 ≤ names.length) :
    s.folders.classify (String.ofList ('/' :: ['/'].intercalate names)) = r := by
  refine hs.classify_of_isUnder hfolder ?_
  rw [String.toList_ofList]
  exact isUnder_names hnames hhead hlen

end

/-- Every name that a file can have can be asked for. However names are spelled in a target, its
    path is made of just these names; if the first of them is a folder, the path is served from
    there, and it resolves to the file that they lead to. -/
theorem Target.path_of_spelled {texts names : List (List Char)} {query : List Char}
    (hne : names ≠ []) (hnames : ∀ name ∈ names, Path.IsFileName name)
    (htexts : Percent.SpellAll texts names)
    (hquery : query = [] ∨ query.head? = some '?' ∨ query.head? = some '#') :
    let path := String.ofList ('/' :: ['/'].intercalate names)
    path? (String.ofList ('/' :: (['/'].intercalate texts ++ query))) = some path ∧
      ∀ s : Settings, s.check = .ok () → ∀ r folder, s.folders.folder? r = some folder →
        names.head? = some folder.toList → 2 ≤ names.length →
        s.folders.classify path = r ∧ ∀ root : String, ∃ file,
          Folders.resolve root path = some file ∧
            Path.LeadsDown root.toList names file.toList := by
  intro path
  -- A query, or a fragment, ends the path.
  have hend : ∀ c ∈ query.head?, endsPath c = true := by
    intro c hc
    rcases hquery with rfl | hmark | hmark
    · cases hc
    · rw [Option.mem_unique hc hmark]
      rfl
    · rw [Option.mem_unique hc hmark]
      rfl
  refine ⟨?_, fun s hs r folder hfolder hhead hlen => ⟨?_, fun root => ?_⟩⟩
  · rw [path?, pathWith?, String.toList_ofList, pathChars?_spelled hnames hne htexts hend]
    rfl
  · exact (Settings.valid_of_check hs).classify_names hnames hfolder hhead hlen
  · exact Folders.resolve_names hnames hne root

/-- A name that looks like an escape, and one with a blank and a letter outside ASCII. -/
theorem Target.path_of_spelled_escaped :
    path? "/%73tatic/%252e/%c3%A9%20?q=/../" = some "/static/%2e/é " ∧
      (Settings.folders {}).classify "/static/%2e/é " = .static ∧
      ∃ file, Folders.resolve "/srv" "/static/%2e/é " = some file ∧
        Path.LeadsDown "/srv".toList ["static".toList, "%2e".toList, "é ".toList]
          file.toList := by
  have hnames : ∀ name ∈ ["static".toList, "%2e".toList, "é ".toList], Path.IsFileName name := by
    simp only [List.mem_cons, List.not_mem_nil, or_false]
    rintro name (rfl | rfl | rfl) <;>
      exact ⟨⟨by decide, by decide, by decide⟩, by decide, by decide⟩
  have hstatic : Percent.Spells "%73tatic".toList (Bytes.ofChars "static".toList) := by
    rw [show Bytes.ofChars "static".toList = [115, 116, 97, 116, 105, 99] by decide +kernel]
    exact .escaped (.inl rfl) (.inl rfl)
      (.plain rfl (.plain rfl (.plain rfl (.plain rfl (.plain rfl .nil)))))
  have hescape : Percent.Spells "%252e".toList (Bytes.ofChars "%2e".toList) := by
    rw [show Bytes.ofChars "%2e".toList = [37, 50, 101] by decide +kernel]
    exact .escaped (.inl rfl) (.inl rfl) (.plain rfl (.plain rfl .nil))
  have hletter : Percent.Spells "%c3%A9%20".toList (Bytes.ofChars "é ".toList) := by
    rw [show Bytes.ofChars "é ".toList = [0xC3, 0xA9, 32] by decide +kernel]
    exact .escaped (.inl rfl) (.inl rfl) (.escaped (.inr rfl) (.inr rfl)
      (.escaped (.inl rfl) (.inl rfl) .nil))
  obtain ⟨hpath, hserved⟩ := path_of_spelled (List.cons_ne_nil _ _)
    hnames (.cons hstatic (.cons hescape (.cons hletter .nil)))
    (.inr (.inl (show "?q=/../".toList.head? = some '?' from rfl)))
  obtain ⟨hclass, hfile⟩ := hserved {} Settings.check_default .static "static" rfl rfl (by decide)
  exact ⟨hpath, hclass, hfile "/srv"⟩

end FileServer
