import FileServer.Yaml.Fault

/-!
# Moving through a text

A `Cursor` is what is left of a text together with the position where it begins. It
moves on by characters within a line (`Cursor.advance`) and over line ends
(`Cursor.skipBreak`), of which there are five besides the pair of carriage return and
line feed, which counts as one. A `Gap` is a run of blanks and line ends inside a
scalar; folding turns it into what stands for it in the value.
-/

namespace FileServer.Yaml

/-- A character that ends a line. -/
def isBreak (c : Char) : Bool :=
  c == '\n' || c == '\r' || c == '\u0085' || c == '\u2028' || c == '\u2029'

/-- A space or a tab. -/
def isBlank (c : Char) : Bool := c == ' ' || c == '\t'

/-- A letter of a name: a letter or digit of ASCII, a hyphen or a low line. -/
def isNameChar (c : Char) : Bool := c.isAlphanum || c == '-' || c == '_'

/-- A hexadecimal digit. -/
def isHexDigit (c : Char) : Bool :=
  c.isDigit || ('a' ≤ c && c ≤ 'f') || ('A' ≤ c && c ≤ 'F')

/-- What a hexadecimal digit is worth. -/
def hexValue (c : Char) : Nat :=
  if c.isDigit then c.toNat - 48 else if 'a' ≤ c then c.toNat - 87 else c.toNat - 55

/-- The end of the text, or a character that separates. -/
def endsWord : Option Char → Bool
  | none => true
  | some c => isBlank c || isBreak c

/-- The end of the text, or the end of a line. -/
def endsLine : Option Char → Bool
  | none => true
  | some c => isBreak c

/-- What is left of a text and where it begins. -/
structure Cursor where
  rest : List Char
  mark : Mark := {}
  deriving Repr

namespace Cursor

/-- The next character. -/
def head? (c : Cursor) : Option Char := c.rest.head?

/-- The character so many places further on. -/
def peek? (c : Cursor) (n : Nat) : Option Char := c.rest[n]?

/-- Whether the next character is the given one. -/
def isAt (c : Cursor) (x : Char) : Bool := c.head? == some x

/-- Whether the next character separates, or there is none. -/
def atWordEnd (c : Cursor) : Bool := endsWord c.head?

/-- Whether the line or the text ends here. -/
def atLineEnd (c : Cursor) : Bool := endsLine c.head?

/-- Goes on by so many characters of one line. -/
def advance (c : Cursor) (n : Nat) : Cursor :=
  ⟨c.rest.drop n, { c.mark with index := c.mark.index + n, column := c.mark.column + n }⟩

/-- The run of characters of a class, and what follows it. -/
def span (c : Cursor) (p : Char → Bool) : List Char × Cursor :=
  let run := c.rest.takeWhile p
  (run, c.advance run.length)

/-- Goes on behind a run of characters of a class. -/
def skipWhile (c : Cursor) (p : Char → Bool) : Cursor := (c.span p).2

/-- The start of the next line, so many characters on. -/
def nextLine (m : Mark) (n : Nat) : Mark := ⟨m.index + n, m.line + 1, 0⟩

/-- Goes on behind a line end. -/
def skipBreak (c : Cursor) : Cursor :=
  match c.rest with
  | '\r' :: '\n' :: rest => ⟨rest, nextLine c.mark 2⟩
  | x :: rest => if isBreak x then ⟨rest, nextLine c.mark 1⟩ else c
  | [] => c

/-- What stands for a line end in a value: a line feed, but the two separators stand
    for themselves. -/
def breakText (c : Cursor) : List Char :=
  match c.head? with
  | none => []
  | some x => if x = '\u2028' ∨ x = '\u2029' then [x] else if isBreak x then ['\n'] else []

/-- Goes on behind a comment, if one begins here. -/
def skipComment (c : Cursor) : Cursor :=
  if c.isAt '#' then c.skipWhile fun x => !isBreak x else c

/-- Three dots or three hyphens at the start of a line, with a word end behind. -/
def atDocumentMark (c : Cursor) (x : Char) : Bool :=
  c.mark.column == 0 && c.rest.take 3 == [x, x, x] && endsWord (c.peek? 3)

/-- Either mark between documents. -/
def atAnyDocumentMark (c : Cursor) : Bool := c.atDocumentMark '-' || c.atDocumentMark '.'

end Cursor

/-- A run of blanks and line ends inside a scalar. -/
structure Gap where
  /-- The blanks, as long as the line has not ended. -/
  blanks : List Char := []
  /-- Whether a line has ended. -/
  broken : Bool := false
  /-- What stands for the first line end. -/
  first : List Char := []
  /-- What stands for the other line ends. -/
  others : List Char := []
  deriving Repr

namespace Gap

/-- One more line end. -/
def addBreak (g : Gap) (text : List Char) : Gap :=
  if g.broken then { g with others := g.others ++ text }
  else { g with blanks := [], broken := true, first := text }

/-- What the gap amounts to in the value: blanks stay, a single line feed becomes a
    space, and further line ends stay in place of the first one. -/
def text (g : Gap) : List Char :=
  if !g.broken then g.blanks
  else if g.first.head? = some '\n' then if g.others = [] then [' '] else g.others
  else g.first ++ g.others

/-- Reads a gap on. A tab in a new line to the left of `limit` is refused. -/
def read (limit : Int) (g : Gap) (m : Mark) : List Char → Except Mark (Gap × Cursor)
  | [] => .ok (g, ⟨[], m⟩)
  | '\r' :: '\n' :: rest => read limit (g.addBreak ['\n']) (Cursor.nextLine m 2) rest
  | x :: rest =>
    let next := { m with index := m.index + 1, column := m.column + 1 }
    if isBreak x then
      read limit (g.addBreak (Cursor.breakText ⟨[x], m⟩)) (Cursor.nextLine m 1) rest
    else if !isBlank x then .ok (g, ⟨x :: rest, m⟩)
    else if g.broken then
      if x = '\t' ∧ m.column < limit then .error m else read limit g next rest
    else read limit { g with blanks := g.blanks ++ [x] } next rest

end Gap

end FileServer.Yaml
