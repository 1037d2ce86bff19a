import FileServer.Proofs.Http.Head
import FileServer.Proofs.Text.Utf8
import FileServer.Http.ResponseHeader

/-!
# Requests as clients write them

A client writes a request as a line with the method, the target and the version, a line for
each header, and an empty line (`RequestText.toBytes`). If it keeps to the characters that are
allowed in each place (`RequestText.WellFormed`), then just these bytes are read as the head,
whatever follows them, and the path is that of the target alone
(`RequestText.read_written`). Only two things can go wrong: there are too many headers, or the
target has no path; of the two, the headers are looked at first.

There is one lemma for each reader, which says what it takes off the front of what was
written for it.
-/

namespace FileServer

/-- A header as it is written. -/
structure HeaderLine where
  name : Bytes
  value : Bytes

/-- A request as it is written. -/
structure RequestText where
  method : String
  target : String
  /-- The digit behind the point of the version. -/
  version : Nat
  headers : List HeaderLine

open RequestHead

namespace HeaderLine

/-- The line of a header. -/
def toBytes (h : HeaderLine) : Bytes := h.name ++ Bytes.ofString ": " ++ h.value ++ lineEnd

/-- The name is a token, and the value holds nothing but what shows, blanks and tabs. -/
structure WellFormed (h : HeaderLine) : Prop where
  name_ne_nil : h.name ≠ []
  name : ∀ b ∈ h.name, isTokenByte b = true
  value : ∀ b ∈ h.value, isValueByte b = true

end HeaderLine

namespace RequestText

/-- The signs that stand in targets beside letters and digits. -/
def targetSigns : List Char := "-._~/%?#&=+:@!$'()*,;".toList

/-- A character of a target. -/
def isTargetChar (c : Char) : Bool := c.isAlphanum || targetSigns.contains c

/-- The head of a request, line by line. -/
def toBytes (r : RequestText) : Bytes :=
  Bytes.ofString r.method ++ Bytes.ofString " " ++ Bytes.ofString r.target ++
    Bytes.ofString " HTTP/1." ++ Bytes.ofNat r.version ++ lineEnd ++
    r.headers.flatMap HeaderLine.toBytes ++ lineEnd

/-- The method is a token, the target begins with a slash, the version is one of two, and the
    headers are well-formed. -/
structure WellFormed (r : RequestText) : Prop where
  method_ne_empty : r.method ≠ ""
  method : ∀ b ∈ Bytes.ofString r.method, isTokenByte b = true
  slash : r.target.toList.head? = some '/'
  target : ∀ c ∈ r.target.toList, isTargetChar c = true
  version : r.version = 0 ∨ r.version = 1
  headers : ∀ h ∈ r.headers, h.WellFormed

end RequestText

/-! ### Bytes that are allowed -/

namespace RequestHead

/-- Tokens are ASCII, and hold no line ends. -/
theorem of_isTokenByte {b : UInt8} (h : isTokenByte b = true) :
    b.toNat < 0x80 ∧ b ≠ 10 ∧ b ≠ 13 :=
  Bytes.forall_byte (P := fun b => isTokenByte b = true → b.toNat < 0x80 ∧ b ≠ 10 ∧ b ≠ 13)
    (by decide +kernel) b h

/-- An ASCII text is what its bytes spell. -/
theorem ascii_ofString {s : String} (h : ∀ b ∈ Bytes.ofString s, b.toNat < 0x80) :
    ascii (Bytes.ofString s) = s := by
  have hchars : ∀ cs : List Char, (∀ b ∈ Bytes.ofChars cs, b.toNat < 0x80) →
      (Bytes.ofChars cs).map (fun b => Char.ofNat b.toNat) = cs := by
    intro cs
    induction cs with
    | nil => exact fun _ => rfl
    | cons c cs ih =>
      intro hcs
      have hlt : c.toNat < 0x80 := by
        refine Nat.lt_of_not_le fun hle => ?_
        rw [Bytes.ofChars_cons] at hcs
        obtain ⟨b, hb⟩ := List.exists_mem_of_ne_nil _ (String.utf8EncodeChar_ne_nil (c := c))
        exact Nat.not_le_of_lt (hcs b (List.mem_append_left _ hb)) (Bytes.le_of_mem_encode hle hb)
      have hnat : (UInt8.ofNat c.toNat).toNat = c.toNat := by
        rw [UInt8.toNat_ofNat']
        omega
      rw [Bytes.ofChars_cons_of_lt hlt] at hcs ⊢
      rw [List.map_cons, ih fun b hb => hcs b (List.mem_cons_of_mem _ hb), hnat, Char.ofNat_toNat]
  rw [ascii, Bytes.ofString, hchars _ h, String.ofList_toList]

end RequestHead

/-- A character of a target shows. -/
theorem RequestText.of_isTargetChar {c : Char} (h : isTargetChar c = true) :
    0x20 < c.toNat ∧ c.toNat < 0x7F := by
  rw [isTargetChar, Bool.or_eq_true, List.contains_iff_mem] at h
  exact Bytes.forall_alphanum_or (P := fun c => 0x20 < c.toNat ∧ c.toNat < 0x7F)
    (by decide +kernel) (by decide +kernel) h

/-! ### What the readers take -/

namespace RequestHead

theorem readLineEnd_lineEnd (rest : Bytes) : readLineEnd (lineEnd ++ rest) = .ok rest := rfl

/-- The version is one of two digits. -/
theorem readVersion_of_digit {version : Nat} (h : version = 0 ∨ version = 1) (rest : Bytes) :
    readVersion (Bytes.ofString "HTTP/1." ++ Bytes.ofNat version ++ rest) =
      .ok (version, rest) := by
  rcases h with rfl | rfl
  · have hdigit : Bytes.ofNat 0 = [48] := by decide +kernel
    rw [hdigit]
    exact (takes_readVersion (.inl ⟨rfl, rfl⟩)).reads rest
  · have hdigit : Bytes.ofNat 1 = [49] := by decide +kernel
    rw [hdigit]
    exact (takes_readVersion (.inr ⟨rfl, rfl⟩)).reads rest

end RequestHead

namespace HeaderLine.WellFormed

variable {h : HeaderLine} (hh : h.WellFormed)

include hh

/-- A header line is read as one. -/
theorem readHeader (rest : Bytes) : readHeader (h.toBytes ++ rest) = .ok rest := by
  have hline : h.toBytes ++ rest = h.name ++ 58 :: (32 :: (h.value ++ (lineEnd ++ rest))) := by
    have hcolon : Bytes.ofString ": " = [58, 32] := by decide +kernel
    simp [toBytes, hcolon]
  have hvalue : (32 :: (h.value ++ (lineEnd ++ rest))).dropWhile isValueByte = lineEnd ++ rest := by
    rw [List.dropWhile_cons_of_pos (by decide), List.dropWhile_append_of_pos hh.value]
    rfl
  rw [RequestHead.readHeader, hline,
    readUntil_of_stop hh.name_ne_nil hh.name (by decide +kernel)]
  dsimp only [bind, Except.bind]
  rw [hvalue]
  exact readLineEnd_lineEnd rest

/-- No header line begins as the empty line does. -/
theorem exists_cons (rest : Bytes) :
    ∃ b bs, h.toBytes ++ rest = b :: bs ∧ b ≠ 13 ∧ b ≠ 10 := by
  obtain ⟨b, name, hname⟩ := List.exists_cons_of_ne_nil hh.name_ne_nil
  obtain ⟨-, h10, h13⟩ := of_isTokenByte (hh.name b (hname ▸ List.mem_cons_self))
  refine ⟨b, name ++ Bytes.ofString ": " ++ h.value ++ lineEnd ++ rest, ?_, h13, h10⟩
  rw [toBytes, hname]
  rfl

end HeaderLine.WellFormed

/-- Header lines are read up to the empty line behind them, if there is room for all of
    them. -/
theorem RequestHead.readHeaders_flatMap {lines : List HeaderLine}
    (hlines : ∀ h ∈ lines, h.WellFormed) (room : Nat) (rest : Bytes) :
    readHeaders room (lines.flatMap HeaderLine.toBytes ++ (lineEnd ++ rest)) =
      if lines.length ≤ room then .ok rest else .error .tooManyHeaders := by
  induction lines generalizing room with
  | nil =>
    have hend : [].flatMap HeaderLine.toBytes ++ (lineEnd ++ rest) = 13 :: 10 :: rest := rfl
    rw [if_pos (show ([] : List HeaderLine).length ≤ room from Nat.zero_le room), hend,
      readHeaders_cons, if_pos rfl]
    rfl
  | cons line lines ih =>
    obtain ⟨hline, hlines⟩ := List.forall_mem_cons.1 hlines
    have hread := hline.readHeader (lines.flatMap HeaderLine.toBytes ++ (lineEnd ++ rest))
    obtain ⟨b, bs, hcons, h13, h10⟩ :=
      hline.exists_cons (lines.flatMap HeaderLine.toBytes ++ (lineEnd ++ rest))
    rw [List.flatMap_cons, List.append_assoc, hcons, readHeaders_cons, if_neg h13, if_neg h10,
      ← hcons, hread]
    -- The line is read in any case, and then there has to be room for it.
    cases room with
    | zero => rw [if_neg (by simp)]
    | succ room =>
      dsimp only
      rw [ih hlines room]
      simp only [List.length_cons, Nat.add_le_add_iff_right]

/-- A target of characters that show is read up to the blank behind it. -/
theorem RequestHead.readTarget_ofChars {cs : List Char} (hne : cs ≠ [])
    (hcs : ∀ c ∈ cs, RequestText.isTargetChar c = true) (rest : Bytes) :
    readTarget (Bytes.ofChars cs ++ 32 :: rest) = .ok (cs, rest) := by
  have hbytes : ∀ b ∈ Bytes.ofChars cs, isTargetByte b = true := by
    intro b hb
    obtain ⟨c, hc, hb⟩ := List.mem_flatMap.1 hb
    obtain ⟨hlow, hhigh⟩ := RequestText.of_isTargetChar (hcs c hc)
    rw [Bytes.encode_of_lt (by omega), List.mem_singleton] at hb
    have hnat : b.toNat = c.toNat := by
      rw [hb, UInt8.toNat_ofNat']
      omega
    simp only [isTargetByte, Bool.and_eq_true, decide_eq_true_eq, bne_iff_ne, ne_eq,
      UInt8.le_iff_toNat_le, ← UInt8.toNat_inj, hnat]
    exact ⟨hlow, Nat.ne_of_lt hhigh⟩
  have hne' : Bytes.ofChars cs ≠ [] := fun h => hne (Bytes.ofChars_inj.1 h)
  rw [readTarget, readUntil_of_stop hne' hbytes (by decide)]
  dsimp only [bind, Except.bind]
  rw [Utf8.decode?_ofChars]
  rfl

/-! ### What is read of a request -/

namespace RequestText.WellFormed

variable {r : RequestText} (hr : r.WellFormed)

include hr

/-- The parts of a written request are read, unless there are too many headers. -/
theorem readParts (tail : Bytes) : readParts (r.toBytes ++ tail) =
    if r.headers.length ≤ maxHeaders then
      .ok (⟨Bytes.ofString r.method, r.target.toList, r.version⟩, tail)
    else .error .tooManyHeaders := by
  have hblank : Bytes.ofString " " = [32] := by decide +kernel
  have hversion : Bytes.ofString " HTTP/1." = 32 :: Bytes.ofString "HTTP/1." := by decide +kernel
  have hmethod : Bytes.ofString r.method ≠ [] := fun h =>
    hr.method_ne_empty (String.toList_inj.1 (Bytes.ofChars_inj.1 h))
  have htarget : r.target.toList ≠ [] := fun h => by
    have hslash := hr.slash
    rw [h] at hslash
    cases hslash
  have hbytes : r.toBytes ++ tail = Bytes.ofString r.method ++ 32 ::
      (Bytes.ofChars r.target.toList ++ 32 ::
        (Bytes.ofString "HTTP/1." ++ Bytes.ofNat r.version ++
          (lineEnd ++ (r.headers.flatMap HeaderLine.toBytes ++ (lineEnd ++ tail))))) := by
    rw [toBytes, hblank, hversion]
    simp [Bytes.ofString]
  -- The first byte belongs to the method, so there is no empty line in front.
  have hskip : ∀ rest, skipEmptyLines (Bytes.ofString r.method ++ rest) =
      .ok (Bytes.ofString r.method ++ rest) := by
    intro rest
    obtain ⟨b, bs, hcons⟩ := List.exists_cons_of_ne_nil hmethod
    obtain ⟨-, h10, h13⟩ := of_isTokenByte (hr.method b (hcons ▸ List.mem_cons_self))
    rw [hcons]
    exact skipEmptyLines_of_ne h10 h13
  rw [RequestHead.readParts, hbytes, hskip]
  dsimp only [bind, Except.bind]
  rw [readUntil_of_stop hmethod hr.method (by decide +kernel)]
  dsimp only
  rw [readTarget_ofChars htarget hr.target]
  dsimp only
  rw [readVersion_of_digit hr.version]
  dsimp only
  rw [readLineEnd_lineEnd]
  dsimp only
  rw [readHeaders_flatMap hr.headers]
  by_cases hcount : r.headers.length ≤ maxHeaders
  · rw [if_pos hcount, if_pos hcount]
    rfl
  · rw [if_neg hcount, if_neg hcount]

/-- A written request is read as what was written, up to its last byte, if the target has a path
    and there are not too many headers; of the two failures the latter comes first. -/
theorem read (tail : Bytes) : RequestHead.read (r.toBytes ++ tail) =
    if r.headers.length ≤ maxHeaders then
      match Target.path? r.target with
      | some path => .ok (⟨r.method, path, r.version⟩, r.toBytes.length)
      | none => .error .invalidPath
    else .error .tooManyHeaders := by
  have hascii : ascii (Bytes.ofString r.method) = r.method :=
    ascii_ofString fun b hb => (of_isTokenByte (hr.method b hb)).1
  rw [RequestHead.read, hr.readParts]
  split
  · dsimp only [bind, Except.bind]
    rw [Target.path?, Target.pathWith?]
    cases Target.pathChars? Authority.isValid r.target.toList with
    | none => rfl
    | some path =>
      dsimp only [Option.map_some]
      rw [hascii, List.length_append, Nat.add_sub_cancel]
      rfl
  · rfl

end RequestText.WellFormed

/-- Well-formed requests are read as they are written: what follows the head is left alone, its
    length is exact, and the path comes from the target and from nothing else. -/
theorem RequestText.read_written (r : RequestText) (hr : r.WellFormed) :
    (∀ tail, RequestHead.read (r.toBytes ++ tail) =
      if r.headers.length ≤ 32 then
        match Target.path? r.target with
        | some path => .ok (⟨r.method, path, r.version⟩, r.toBytes.length)
        | none => .error .invalidPath
      else .error .tooManyHeaders) ∧
    ∀ r' : RequestText, r'.WellFormed → r'.target = r.target →
      r.headers.length ≤ 32 → r'.headers.length ≤ 32 → ∀ tail tail',
        (RequestHead.read (r'.toBytes ++ tail')).map (·.1.path) =
          (RequestHead.read (r.toBytes ++ tail)).map (·.1.path) := by
  refine ⟨hr.read, fun r' hr' htarget hcount hcount' tail tail' => ?_⟩
  rw [hr.read, hr'.read, if_pos (show r.headers.length ≤ maxHeaders from hcount),
    if_pos (show r'.headers.length ≤ maxHeaders from hcount'), htarget]
  cases Target.path? r.target <;> rfl

/-- A request with an escape, a query and two headers, read again under another method,
    version and header. -/
theorem RequestText.read_written_escaped :
    let r : RequestText := ⟨"GET", "/static/%61.txt?q=1", 1,
      [⟨Bytes.ofString "Host", Bytes.ofString "localhost"⟩,
        ⟨Bytes.ofString "X-Note", [9, 0xC3, 0xA9]⟩]⟩
    let r' : RequestText := ⟨"BREW", r.target, 0, [⟨Bytes.ofString "a", []⟩]⟩
    r.WellFormed ∧ r'.WellFormed ∧
      RequestHead.read (r.toBytes ++ Bytes.ofString "GET /") =
        .ok (⟨"GET", "/static/a.txt", 1⟩, r.toBytes.length) ∧
      (RequestHead.read r'.toBytes).map (·.1.path) = .ok "/static/a.txt" := by
  intro r r'
  -- Both are well-formed, with two headers and with one.
  have hr : r.WellFormed := by
    refine ⟨by decide, by decide +kernel, by decide +kernel,
      List.all_eq_true.1 (by decide +kernel), Or.inr rfl, ?_⟩
    refine List.forall_mem_cons.2 ⟨⟨by decide +kernel, by decide +kernel, by decide +kernel⟩, ?_⟩
    exact List.forall_mem_singleton.2 ⟨by decide +kernel, by decide +kernel, by decide +kernel⟩
  have hr' : r'.WellFormed := by
    refine ⟨by decide, by decide +kernel, by decide +kernel,
      List.all_eq_true.1 (by decide +kernel), Or.inl rfl, ?_⟩
    exact List.forall_mem_singleton.2 ⟨by decide +kernel, by decide +kernel, by decide +kernel⟩
  have hpath : Target.path? r.target = some "/static/a.txt" := by decide +kernel
  obtain ⟨hread, hsame⟩ := read_written r hr
  have hr_read := hread (Bytes.ofString "GET /")
  rw [if_pos (show r.headers.length ≤ 32 by decide), hpath] at hr_read
  refine ⟨hr, hr', hr_read, ?_⟩
  have h := hsame r' hr' rfl (by decide) (by decide) (Bytes.ofString "GET /") []
  rw [hr_read, List.append_nil] at h
  exact h

end FileServer
