import FileServer.Http.Head
import FileServer.Proofs.Http.BlankLine
import FileServer.Proofs.Text.Utf8

/-!
# What a client makes of a response

A client looks for the first blank line. In front of it stand the lines of the header, in which
it finds the status code, behind the first blank, and the length of the body, behind a label;
and what follows is the body (`ResponseHeader.read?`). Whatever the body holds, this gives back
the header and the body that were sent (`ResponseHeader.read?_toBytes`), and so two responses
whose bytes are the same are the same (`ResponseHeader.frames_any_body`).

The header is written line by line (`ResponseHeader.toBytes_eq`), and none of its lines is empty
or holds a line end, so it is the header that ends with the first blank line
(`ResponseHeader.findBlankLine?_toBytes`). The length is read back because decimal digits are
(`Bytes.toNat_ofNat`) and the line end behind them is none.
-/

namespace FileServer

/-! ### Decimal digits -/

namespace Bytes

/-- The number that decimal digits spell. -/
def toNat (digits : Bytes) : Nat := digits.foldl (fun n b => 10 * n + (b.toNat - 48)) 0

theorem ofNat_eq (n : Nat) : ofNat n = (Nat.toDigits 10 n).map fun c => UInt8.ofNat c.toNat :=
  ofChars_eq_map fun c hc =>
    toNat_lt_of_isAlphanum (by simp [Char.isAlphanum, isDigit_of_mem_toDigits hc])

theorem ofNat_ne_nil (n : Nat) : ofNat n ≠ [] := by
  rw [ofNat_eq]
  exact fun h => Nat.toDigits_ne_nil (List.map_eq_nil_iff.1 h)

/-- A digit is a digit as a byte too, and stands for the same number. -/
theorem digit_ofNat {c : Char} (h : c.isDigit = true) :
    RequestHead.isDigit (UInt8.ofNat c.toNat) = true ∧ (UInt8.ofNat c.toNat).toNat = c.toNat := by
  have hc : c.isAlphanum = true ∨ c ∈ [] := .inl (by simp [Char.isAlphanum, h])
  exact forall_alphanum_or (P := fun c => c.isDigit = true →
    RequestHead.isDigit (UInt8.ofNat c.toNat) = true ∧ (UInt8.ofNat c.toNat).toNat = c.toNat)
    (by decide +kernel) rfl hc h

theorem isDigit_of_mem_ofNat {n : Nat} {b : UInt8} (h : b ∈ ofNat n) :
    RequestHead.isDigit b = true := by
  rw [ofNat_eq] at h
  obtain ⟨c, hc, rfl⟩ := List.mem_map.1 h
  exact (digit_ofNat (isDigit_of_mem_toDigits hc)).1

/-- Digits spell the same number as bytes that they spell as characters. -/
theorem foldl_map_digits {cs : List Char} (h : ∀ c ∈ cs, c.isDigit = true) (k : Nat) :
    (cs.map fun c => UInt8.ofNat c.toNat).foldl (fun n b => 10 * n + (b.toNat - 48)) k =
      Nat.ofDigitChars 10 cs k := by
  induction cs generalizing k with
  | nil => rfl
  | cons c cs ih =>
    obtain ⟨hc, hcs⟩ := List.forall_mem_cons.1 h
    rw [List.map_cons, List.foldl_cons, ih hcs, (digit_ofNat hc).2]
    rfl

/-- A number is read back from its digits. -/
theorem toNat_ofNat (n : Nat) : toNat (ofNat n) = n := by
  rw [toNat, ofNat_eq, foldl_map_digits fun c => isDigit_of_mem_toDigits]
  exact Nat.ofDigitChars_toDigits (by decide) (by decide)

end Bytes

/-! ### How a client reads -/

/-- The number whose digits stand in front, if there are any. -/
def numberAt? (bs : Bytes) : Option Nat :=
  let digits := bs.takeWhile RequestHead.isDigit
  if digits = [] then none else some (Bytes.toNat digits)

/-- What stands behind the first place where a label stands. -/
def behind? (label : Bytes) : Bytes → Option Bytes
  | [] => none
  | b :: bs =>
    if label.isPrefixOf (b :: bs) then some ((b :: bs).drop label.length) else behind? label bs

/-- The status that a number stands for. -/
def Status.ofCode? (code : Nat) : Option Status :=
  if code = 200 then some .ok else if code = 404 then some .notFound else none

/-- What the length of a body is labelled with. -/
def lengthLabel : Bytes := Bytes.ofString "Content-Length: "

/-- The header and the body of a response, as a client reads them. Both numbers stand in front
    of the first blank line, the status code in the first line. -/
def ResponseHeader.read? (bs : Bytes) : Option (ResponseHeader × Bytes) := do
  let stop ← findBlankLine? bs
  let lines := bs.take stop
  let status ← ((behind? [32] (lines.takeWhile (· != 13))).bind numberAt?).bind Status.ofCode?
  let length ← (behind? lengthLabel lines).bind numberAt?
  return (⟨status, length⟩, bs.drop (stop + blankLine.length))

/-- A number is read where its digits stand, if no digit follows them. -/
theorem numberAt?_ofNat (n : Nat) {b : UInt8} (hb : RequestHead.isDigit b = false) (rest : Bytes) :
    numberAt? (Bytes.ofNat n ++ b :: rest) = some n := by
  have htake : (Bytes.ofNat n ++ b :: rest).takeWhile RequestHead.isDigit = Bytes.ofNat n := by
    rw [List.takeWhile_append_of_pos fun b => Bytes.isDigit_of_mem_ofNat,
      List.takeWhile_cons_of_neg (by simp [hb]), List.append_nil]
  rw [numberAt?, htake, if_neg (Bytes.ofNat_ne_nil n), Bytes.toNat_ofNat]

/-- A label is found behind bytes that it does not begin with. -/
theorem behind?_append {c : UInt8} {label front : Bytes} (hfront : c ∉ front) (rest : Bytes) :
    behind? (c :: label) (front ++ (c :: label) ++ rest) = some rest := by
  induction front with
  | nil =>
    rw [List.nil_append, List.cons_append, behind?, ← List.cons_append,
      if_pos (List.isPrefixOf_iff_prefix.2 (List.prefix_append _ _)), List.drop_left]
  | cons b front ih =>
    obtain ⟨hb, hfront⟩ := not_or.1 (List.mem_cons.not.1 hfront)
    rw [List.cons_append, List.cons_append, behind?, if_neg, ih hfront]
    exact fun hpre => hb (List.cons_prefix_cons.1 (List.isPrefixOf_iff_prefix.1 hpre)).1

namespace ResponseHeader

/-! ### The lines of a header -/

/-- The line that tells the status. -/
def statusLine (s : Status) : Bytes :=
  Bytes.ofString "HTTP/1.1 " ++ Bytes.ofNat s.code ++ Bytes.ofString " " ++
    Bytes.ofString s.reason

/-- The line that tells the length of the body. -/
def lengthLine (n : Nat) : Bytes := lengthLabel ++ Bytes.ofNat n

/-- The line that announces the end of the connection. -/
def closeLine : Bytes := Bytes.ofString "Connection: close"

/-- What stands in front of the blank line. -/
def lines (h : ResponseHeader) : Bytes :=
  statusLine h.status ++ (lineEnd ++ (lengthLine h.length ++ (lineEnd ++ closeLine)))

theorem toBytes_eq (h : ResponseHeader) : h.toBytes = h.lines ++ blankLine := by
  have hblank : blankLine = lineEnd ++ lineEnd := rfl
  simp only [toBytes, lines, statusLine, lengthLine, lengthLabel, closeLine, hblank,
    List.append_assoc]

/-- The line of a status holds neither a line end nor the letter that the label begins with. -/
theorem notMem_statusLine (s : Status) : 13 ∉ statusLine s ∧ 67 ∉ statusLine s := by
  cases s <;> decide +kernel

theorem notMem_lengthLine (n : Nat) : 13 ∉ lengthLine n := by
  have hlabel : 13 ∉ lengthLabel := by decide +kernel
  intro hmem
  rcases List.mem_append.1 hmem with hmem | hmem
  · exact hlabel hmem
  · exact absurd (Bytes.isDigit_of_mem_ofNat hmem) (by decide)

/-- Behind a header, the first blank line is the one that ends it. -/
theorem findBlankLine?_toBytes (h : ResponseHeader) (body : Bytes) :
    findBlankLine? (h.toBytes ++ body) = some h.lines.length := by
  have hlength : lengthLine h.length ≠ [] := List.append_ne_nil_of_left_ne_nil
    (by decide +kernel) _
  rw [toBytes_eq, findBlankLine?]
  simp only [lines, List.append_assoc]
  rw [blankLineFrom_line (notMem_statusLine h.status).1,
    blankLineFrom_lineEnd_line hlength (notMem_lengthLine h.length),
    blankLineFrom_lineEnd_line (by decide +kernel) (by decide +kernel), blankLineFrom_blankLine]
  simp only [List.length_append, lineEnd, List.length_cons, List.length_nil, Option.some_inj]
  omega

/-! ### What is read back -/

theorem status_of_statusLine (s : Status) :
    ((behind? [32] (statusLine s)).bind numberAt?).bind Status.ofCode? = some s := by
  cases s <;> decide +kernel

theorem takeWhile_lines (h : ResponseHeader) :
    h.lines.takeWhile (· != 13) = statusLine h.status := by
  have hline : ∀ b ∈ statusLine h.status, (b != 13) = true := fun b hb =>
    bne_iff_ne.2 fun h13 => (notMem_statusLine h.status).1 (h13 ▸ hb)
  rw [lines, List.takeWhile_append_of_pos hline]
  exact List.append_nil _

/-- The length is read behind its label, which the line of the status does not hold. -/
theorem length_of_lines (h : ResponseHeader) :
    (behind? lengthLabel h.lines).bind numberAt? = some h.length := by
  have hlabel : lengthLabel = 67 :: lengthLabel.tail := by decide +kernel
  have hfront : 67 ∉ statusLine h.status ++ lineEnd := by
    rw [List.mem_append, not_or]
    exact ⟨(notMem_statusLine h.status).2, by decide⟩
  have hlines : h.lines = statusLine h.status ++ lineEnd ++ lengthLabel ++
      (Bytes.ofNat h.length ++ (lineEnd ++ closeLine)) := by
    simp only [lines, lengthLine, List.append_assoc]
  have hbehind : behind? lengthLabel h.lines =
      some (Bytes.ofNat h.length ++ (lineEnd ++ closeLine)) := by
    rw [hlines, hlabel]
    exact behind?_append hfront _
  have hreturn : RequestHead.isDigit 13 = false := by decide
  rw [hbehind]
  exact numberAt?_ofNat h.length hreturn _

/-- The header and the body are read back, whatever the body is. -/
theorem read?_toBytes (h : ResponseHeader) (body : Bytes) :
    read? (h.toBytes ++ body) = some (h, body) := by
  have hlines : (h.toBytes ++ body).take h.lines.length = h.lines := by
    rw [toBytes_eq, List.append_assoc, List.take_left]
  have hbody : (h.toBytes ++ body).drop (h.lines.length + blankLine.length) = body := by
    rw [toBytes_eq, ← List.length_append, List.drop_left]
  rw [read?, findBlankLine?_toBytes]
  dsimp only [bind, Option.bind_some]
  rw [hlines, hbody, takeWhile_lines, status_of_statusLine, Option.bind_some, length_of_lines]
  rfl

/-- No response can be taken for another one. -/
theorem eq_of_toBytes_append_eq {h h' : ResponseHeader} {body body' : Bytes}
    (heq : h'.toBytes ++ body' = h.toBytes ++ body) : h' = h ∧ body' = body := by
  have hread := read?_toBytes h' body'
  rw [heq, read?_toBytes] at hread
  obtain ⟨rfl, rfl⟩ := Prod.mk.inj (Option.some.inj hread)
  exact ⟨rfl, rfl⟩

/-- Whatever the body holds, the first blank line of a response is the end of the header, and
    no other one ends inside the header; what a client reads is the header and the body that
    were sent. So a header tells its status and length, none begins another one, and it is
    what is put behind the bytes that a buffer holds. -/
theorem frames_any_body (h : ResponseHeader) (body : Bytes) :
    findBlankLine? (h.toBytes ++ body) = some (h.toBytes.length - 4) ∧
      blankLine <:+ h.toBytes ∧
      (∀ before after, h.toBytes ++ body = before ++ blankLine ++ after →
        before.length + 4 ≤ h.toBytes.length → before.length + 4 = h.toBytes.length) ∧
      read? (h.toBytes ++ body) = some (h, body) ∧
      (∀ h' body', h'.toBytes ++ body' = h.toBytes ++ body → h' = h ∧ body' = body) ∧
      (∀ h', h'.toBytes = h.toBytes → h' = h) ∧ (∀ h', h'.toBytes <+: h.toBytes → h' = h) ∧
      ∀ buffer, h.appendTo buffer = buffer ++ h.toBytes := by
  have hlength : h.toBytes.length = h.lines.length + 4 := by
    rw [toBytes_eq, List.length_append]
    rfl
  have hfind : findBlankLine? (h.toBytes ++ body) = some (h.toBytes.length - 4) := by
    rw [findBlankLine?_toBytes, hlength, Nat.add_sub_cancel]
  refine ⟨hfind, ⟨h.lines, (toBytes_eq h).symm⟩, fun before after hsplit hle => ?_,
    read?_toBytes h body, fun h' body' => eq_of_toBytes_append_eq, fun h' heq => ?_,
    fun h' hpre => ?_, fun _ => rfl⟩
  · have hfirst := le_of_findBlankLine? hfind hsplit
    omega
  · exact (eq_of_toBytes_append_eq (congrArg (· ++ []) heq)).1
  · obtain ⟨behind, hbehind⟩ := hpre
    exact (eq_of_toBytes_append_eq (hbehind.trans (List.append_nil _).symm)).1

end ResponseHeader

end FileServer
