import FileServer.Text.Utf8
import FileServer.Yaml.Cursor
import FileServer.Yaml.Token

/-!
# Reading directives and the properties of nodes

A directive is a line that begins with a percent sign and names the version or says what
a tag handle stands for. The properties of a node are its anchor and its tag; a reference
repeats an anchored node. Every reader gets the cursor at the first character and gives
back the token and what follows it.
-/

namespace FileServer.Yaml.Property

/-- A mistake inside something that began at `start`. -/
def mistake {α : Type} (context problem : String) (start : Mark) (c : Cursor) : Except Fault α :=
  .error (.malformed problem c.mark (some (context, start)))

/-! ## Anchors and references -/

/-- The characters that may follow a name. -/
def nameEnds : List Char := ['?', ':', ',', ']', '\x7d', '%', '@', '\x60']

/-- An anchor, or a reference to one. -/
def named (isAnchor : Bool) (c : Cursor) : Except Fault (Token × Cursor) :=
  let (name, after) := (c.advance 1).span isNameChar
  if name = [] ∨ !(after.atWordEnd || after.head?.any nameEnds.contains) then
    mistake (if isAnchor then "while scanning an anchor" else "while scanning an alias")
      "did not find expected alphabetic or numeric character" c.mark after
  else .ok (⟨if isAnchor then .anchor name else .reference name, c.mark, after.mark⟩, after)

/-! ## Tags -/

/-- The signs that a tag may hold. -/
def tagSigns : List Char := ";/?:@&=+$.!~*'()".toList

/-- The signs that it may hold besides when it stands in full. -/
def fullTagSigns : List Char := [',', '[', ']']

/-- How many continuation bytes the first byte of an escaped character announces. -/
def announced? (b : Nat) : Option Nat :=
  if b < 0x80 then some 0
  else if b < 0xC0 then none
  else if b < 0xE0 then some 1
  else if b < 0xF0 then some 2
  else if b < 0xF8 then some 3
  else none

/-- What is being read. -/
inductive Within
  | directive
  | node
  deriving DecidableEq, Repr

/-- What is being read, in words. -/
def Within.context : Within → String
  | directive => "while parsing a %TAG directive"
  | node => "while parsing a tag"

/-- Reads escaped bytes, `more` of which still have to continue a character. -/
def escapedBytes (within : Within) (start : Mark) (c : Cursor) :
    (more : Nat) → Except Fault (Bytes × Cursor)
  | 0 => .ok ([], c)
  | more + 1 => do
    let (b, c) ← escapedByte c
    if b &&& 0xC0 ≠ 0x80 then
      mistake within.context "found an incorrect trailing UTF-8 octet" start c
    else
      let (bs, c) ← escapedBytes within start (c.advance 3) more
      return (b :: bs, c)
where
  /-- One escaped byte, which is looked at but not passed. -/
  escapedByte (c : Cursor) : Except Fault (UInt8 × Cursor) :=
    match c.rest with
    | '%' :: h :: l :: _ =>
      if isHexDigit h && isHexDigit l then
        .ok ((hexValue h * 16 + hexValue l).toUInt8, c)
      else mistake within.context "did not find URI escaped octet" start c
    | _ => mistake within.context "did not find URI escaped octet" start c

/-- Reads one escaped character. -/
def escapedChar (within : Within) (start : Mark) (c : Cursor) : Except Fault (Bytes × Cursor) := do
  let (b, c) ← escapedBytes.escapedByte within start c
  match announced? b.toNat with
  | none => mistake within.context "found an incorrect leading UTF-8 octet" start c
  | some more =>
    let (bs, c) ← escapedBytes within start (c.advance 3) more
    return (b :: bs, c)

/-- The characters of a tag behind its handle. -/
def tagChars (within : Within) (full : Bool) (start : Mark) :
    Nat → Bytes → Cursor → Except Fault (Bytes × Cursor)
  | 0, bs, c => .ok (bs, c)
  | fuel + 1, bs, c =>
    match c.head? with
    | none => .ok (bs, c)
    | some x =>
      if x = '%' then do
        let (more, c) ← escapedChar within start c
        tagChars within full start fuel (bs ++ more) c
      else if isNameChar x || tagSigns.contains x || (full && fullTagSigns.contains x) then
        tagChars within full start fuel (bs ++ Bytes.ofChars [x]) (c.advance 1)
      else .ok (bs, c)

/-- A tag behind its handle, which must not be empty unless something stands before it. -/
def tagRest (within : Within) (full : Bool) (head : List Char) (start : Mark) (c : Cursor) :
    Except Fault (Bytes × Cursor) := do
  let (bs, after) ← tagChars within full start (c.rest.length + 1) [] c
  if head = [] ∧ after.mark.index = c.mark.index then
    mistake within.context "did not find expected tag URI" start after
  else return (Bytes.ofChars head.tail ++ bs, after)

/-- A tag handle: an exclamation mark, and perhaps a name and another one. -/
def tagHandle (within : Within) (start : Mark) (c : Cursor) :
    Except Fault (List Char × Cursor) :=
  let context := match within with
    | .directive => "while scanning a tag directive"
    | .node => "while scanning a tag"
  if !c.isAt '!' then mistake context "did not find expected '!'" start c
  else
    let (name, after) := (c.advance 1).span isNameChar
    if after.isAt '!' then .ok ('!' :: name ++ ['!'], after.advance 1)
    else if within = .directive ∧ name ≠ [] then
      mistake "while parsing a tag directive" "did not find expected '!'" start after
    else .ok ('!' :: name, after)

/-- The handle and the rest of a tag. -/
def tagParts (c : Cursor) : Except Fault (List Char × Bytes × Cursor) := do
  if c.peek? 1 = some '<' then
    let (rest, after) ← tagRest .node true [] c.mark (c.advance 2)
    if !after.isAt '>' then
      mistake "while scanning a tag" "did not find the expected '>'" c.mark after
    else return ([], rest, after.advance 1)
  else
    let (handle, after) ← tagHandle .node c.mark c
    if 1 < handle.length ∧ handle.getLast? = some '!' then
      let (rest, after) ← tagRest .node false [] c.mark after
      return (handle, rest, after)
    else
      let (rest, after) ← tagRest .node false handle c.mark after
      if rest = [] then return ([], Bytes.ofString "!", after)
      else return (['!'], rest, after)

/-- A tag. -/
def tag (inFlow : Bool) (c : Cursor) : Except Fault (Token × Cursor) := do
  let (handle, rest, after) ← tagParts c
  if (inFlow && after.isAt ',') || after.atWordEnd then
    return (⟨.tag handle rest, c.mark, after.mark⟩, after)
  else
    mistake "while scanning a tag" "did not find expected whitespace or line break" c.mark after

/-! ## Directives -/

/-- A part of a version: at most nine digits. -/
def versionPart (start : Mark) (c : Cursor) : Except Fault (Nat × Cursor) :=
  let context := "while scanning a %YAML directive"
  let (digits, after) := c.span Char.isDigit
  if 9 < digits.length then
    mistake context "found extremely long version number" start (c.advance 9)
  else if digits = [] then mistake context "did not find expected version number" start after
  else .ok (digits.foldl (fun n d => n * 10 + (d.toNat - 48)) 0, after)

/-- The version behind its directive. -/
def version (start : Mark) (c : Cursor) : Except Fault (TokenKind × Cursor) := do
  let (major, c) ← versionPart start (c.skipWhile isBlank)
  if !c.isAt '.' then
    mistake "while scanning a %YAML directive" "did not find expected digit or '.' character"
      start c
  else
    let (minor, c) ← versionPart start (c.advance 1)
    return (.version major minor, c)

/-- The handle and its meaning behind their directive. -/
def tagRule (start : Mark) (c : Cursor) : Except Fault (TokenKind × Cursor) := do
  let context := "while scanning a %TAG directive"
  let (handle, c) ← tagHandle .directive start (c.skipWhile isBlank)
  if !c.head?.any isBlank then mistake context "did not find expected whitespace" start c
  else
    let (meaning, c) ← tagRest .directive true [] start (c.skipWhile isBlank)
    if !c.atWordEnd then
      mistake context "did not find expected whitespace or line break" start c
    else return (.tagRule handle meaning, c)

/-- A directive with the rest of its line. -/
def directive (c : Cursor) : Except Fault (Token × Cursor) := do
  let context := "while scanning a directive"
  let start := c.mark
  let (name, after) := (c.advance 1).span isNameChar
  if name = [] then mistake context "could not find expected directive name" start after
  else if !after.atWordEnd then
    mistake context "found unexpected non-alphabetical character" start after
  else
    let (kind, after) ←
      if name = "YAML".toList then version start after
      else if name = "TAG".toList then tagRule start after
      else mistake context "found unknown directive name" start after
    let line := (after.skipWhile isBlank).skipComment
    if !line.atLineEnd then
      mistake context "did not find expected comment or line break" start line
    else return (⟨kind, start, after.mark⟩, line.skipBreak)

end FileServer.Yaml.Property
