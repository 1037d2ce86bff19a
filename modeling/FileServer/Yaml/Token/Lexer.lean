import FileServer.Yaml.Token.Property
import FileServer.Yaml.Token.Scalar

/-!
# The tokens of a text

`Lexer.tokens` takes a text apart. What a node is may show only behind it: a node in
front of a colon was a key all along, and the key's token, and perhaps the one that opens
a mapping, belong in front of it. So tokens wait in a queue, and a place where a key could
still turn out to have begun is kept for every level of brackets. A token leaves the queue
once no such place points at it any more. A key that needs no sign of its own lies within
one line and within `keyReach` characters.

Outside brackets, indentation tells where collections begin and end: a line further to the
right than the collection around it opens one, and a line further to the left closes those
it is left of.
-/

namespace FileServer.Yaml

/-- A place where a key could have begun. -/
structure KeyPlace where
  /-- Nothing but a key can stand there. -/
  needed : Bool
  /-- How many tokens come before it. -/
  number : Nat
  mark : Mark
  deriving Repr

/-- What has been read of a text. -/
structure Lexer where
  cursor : Cursor
  /-- Whether the token that begins every stream has been made. -/
  started : Bool := false
  /-- The tokens that wait, oldest first. -/
  queue : List Token := []
  /-- How many tokens have left the queue. -/
  taken : Nat := 0
  /-- The place for a key on the innermost level. -/
  place : Option KeyPlace := none
  /-- Those of the levels around it. -/
  outer : List (Option KeyPlace) := []
  /-- Whether a key may begin here. -/
  keyAllowed : Bool := true
  /-- The column of the innermost indented collection, or one less than none. -/
  indent : Int := -1
  /-- Those of the collections around it. -/
  indents : List Int := []

namespace Lexer

/-- How far a key reaches at most. -/
def keyReach : Nat := 1024

/-- Whether brackets are open. -/
def inFlow (x : Lexer) : Bool := !x.outer.isEmpty

/-- The position reached. -/
def mark (x : Lexer) : Mark := x.cursor.mark

/-- A mistake on the level of tokens. -/
def mistake {α : Type} (problem : String) (place : Mark) (context : Option (String × Mark)) :
    Except Fault α :=
  .error (.malformed problem place context)

/-- The mistake of a key that no colon follows. -/
def colonMissing {α : Type} (x : Lexer) (k : KeyPlace) : Except Fault α :=
  mistake "could not find expected ':'" x.mark (some ("while scanning a simple key", k.mark))

/-! ## Places for keys -/

/-- A place that lies too far back for a key. -/
def isStale (x : Lexer) (k : KeyPlace) : Bool :=
  k.mark.line < x.mark.line || k.mark.index + keyReach < x.mark.index

/-- A place is kept unless it lies too far back, which must not happen to one that needs a
    key. -/
def keepFresh (x : Lexer) (place : Option KeyPlace) : Except Fault (Option KeyPlace) :=
  match place with
  | none => .ok none
  | some k =>
    if !x.isStale k then .ok (some k)
    else if k.needed then x.colonMissing k
    else .ok none

/-- Gives up the places that lie too far back. -/
def dropStale (x : Lexer) : Except Fault Lexer := do
  let outer ← x.outer.reverse.mapM x.keepFresh
  let place ← x.keepFresh x.place
  return { x with outer := outer.reverse, place := place }

/-- Gives up the place on the innermost level. -/
def dropPlace (x : Lexer) : Except Fault Lexer :=
  match x.place with
  | some k => if k.needed then x.colonMissing k else .ok { x with place := none }
  | none => .ok x

/-- Keeps this place for a key, if one may begin here. -/
def keepPlace (x : Lexer) : Except Fault Lexer :=
  if x.keyAllowed then do
    let needed := !x.inFlow && x.indent == x.mark.column
    let k : KeyPlace := ⟨needed, x.taken + x.queue.length, x.mark⟩
    let x ← x.dropPlace
    return { x with place := some k }
  else .ok x

/-! ## Tokens and indentation -/

/-- A token behind those that wait. -/
def push (x : Lexer) (kind : TokenKind) (start stop : Mark) : Lexer :=
  { x with queue := x.queue ++ [⟨kind, start, stop⟩] }

/-- A token without extent in front of the one of that number. -/
def insertAt (x : Lexer) (number : Nat) (kind : TokenKind) (m : Mark) : Lexer :=
  { x with queue := x.queue.insertIdx (number - x.taken) ⟨kind, m, m⟩ }

/-- Opens a collection at a column further right than the one around it; its token goes
    in front of the token of that number, or behind those that wait. -/
def openIndent (x : Lexer) (column : Nat) (number : Option Nat) (kind : TokenKind) (m : Mark) :
    Lexer :=
  if x.inFlow || !(x.indent < column) then x
  else
    let x := { x with indents := x.indent :: x.indents, indent := column }
    match number with
    | some n => x.insertAt n kind m
    | none => x.push kind m m

/-- Closes the collections that the column lies left of. -/
def closeAbove (m : Mark) (column : Int) (indent : Int) :
    List Int → List Token × Int × List Int
  | [] => ([], indent, [])
  | around :: rest =>
    if column < indent then
      let (tokens, indent, indents) := closeAbove m column around rest
      (⟨.blockEnd, m, m⟩ :: tokens, indent, indents)
    else ([], indent, around :: rest)

/-- Closes the collections that the column lies left of, unless brackets are open. -/
def closeIndents (x : Lexer) (column : Int) : Lexer :=
  if x.inFlow then x
  else
    let (tokens, indent, indents) := closeAbove x.mark column x.indent x.indents
    { x with queue := x.queue ++ tokens, indent := indent, indents := indents }

/-- Takes a token of so many characters of one line. -/
def pushSign (x : Lexer) (kind : TokenKind) (n : Nat) : Lexer :=
  let after := x.cursor.advance n
  { x.push kind x.mark after.mark with cursor := after }

/-- Takes a token that was read on its own. -/
def pushRead (x : Lexer) (read : Token × Cursor) : Lexer :=
  { x with queue := x.queue ++ [read.1], cursor := read.2 }

/-! ## One token after the other -/

/-- Passes blanks, comments and line ends. A tab may stand wherever no key may begin; a
    line end allows one to begin. -/
def skipBlank (fuel : Nat) (x : Lexer) : Lexer :=
  match fuel with
  | 0 => x
  | fuel + 1 =>
    let c := if x.cursor.mark.index = 0 ∧ x.cursor.isAt '\ufeff' then x.cursor.advance 1 else x.cursor
    let tabs := x.inFlow || !x.keyAllowed
    let c := (c.skipWhile fun y => y == ' ' || (tabs && y == '\t')).skipComment
    if c.head?.any isBreak then
      skipBlank fuel
        { x with cursor := c.skipBreak, keyAllowed := x.keyAllowed || !x.inFlow }
    else { x with cursor := c }

/-- The end of the text closes everything. -/
def readEnd (x : Lexer) : Except Fault Lexer := do
  let m := x.mark
  let m := if m.column = 0 then m else ⟨m.index, m.line + 1, 0⟩
  let x := { x with cursor := ⟨[], m⟩ }
  let x ← (x.closeIndents (-1)).dropPlace
  return { x with keyAllowed := false }.push .streamEnd m m

/-- A directive or a mark between documents closes what was open. -/
def closeDocument (x : Lexer) : Except Fault Lexer := do
  let x ← (x.closeIndents (-1)).dropPlace
  return { x with keyAllowed := false }

/-- An opening bracket, which may begin a key. -/
def openFlow (x : Lexer) (kind : TokenKind) : Except Fault Lexer := do
  let x ← x.keepPlace
  return { x with outer := x.place :: x.outer, place := none, keyAllowed := true }.pushSign kind 1

/-- A closing bracket. -/
def closeFlow (x : Lexer) (kind : TokenKind) : Except Fault Lexer := do
  let x ← x.dropPlace
  let x := match x.outer with
    | [] => x
    | place :: outer => { x with place := place, outer := outer }
  return { x with keyAllowed := false }.pushSign kind 1

/-- A comma between entries. -/
def flowEntry (x : Lexer) : Except Fault Lexer := do
  let x ← x.dropPlace
  return { x with keyAllowed := true }.pushSign .flowEntry 1

/-- Opens a collection here, where a key has to be allowed. -/
def openHere (x : Lexer) (kind : TokenKind) (what : String) : Except Fault Lexer :=
  if x.inFlow then .ok x
  else if !x.keyAllowed then mistake s!"{what} are not allowed in this context" x.mark none
  else .ok (x.openIndent x.mark.column none kind x.mark)

/-- The hyphen in front of an entry. -/
def blockEntry (x : Lexer) : Except Fault Lexer := do
  let x ← x.openHere .blockSequenceStart "block sequence entries"
  let x ← x.dropPlace
  return { x with keyAllowed := true }.pushSign .blockEntry 1

/-- The question mark in front of a key. -/
def keySign (x : Lexer) : Except Fault Lexer := do
  let x ← x.openHere .blockMappingStart "mapping keys"
  let x ← x.dropPlace
  return { x with keyAllowed := !x.inFlow }.pushSign .key 1

/-- The colon behind a key. -/
def valueSign (x : Lexer) : Except Fault Lexer :=
  match x.place with
  | some k =>
    let x := (x.insertAt k.number .key k.mark).openIndent k.mark.column (some k.number)
      .blockMappingStart k.mark
    .ok ({ x with place := none, keyAllowed := false }.pushSign .value 1)
  | none => do
    let x ← x.openHere .blockMappingStart "mapping values"
    return { x with keyAllowed := !x.inFlow }.pushSign .value 1

/-- A token that may begin a key and behind which none may begin. -/
def nodeToken (x : Lexer) (read : Cursor → Except Fault (Token × Cursor)) : Except Fault Lexer := do
  let x ← x.keepPlace
  let read ← read x.cursor
  return { x with keyAllowed := false }.pushRead read

/-- A block, which is no key. -/
def blockToken (x : Lexer) (literal : Bool) : Except Fault Lexer := do
  let x ← x.dropPlace
  let read ← Scalar.block literal x.indent x.cursor
  return { x with keyAllowed := true }.pushRead read

/-- A plain scalar; a key may begin behind it if a line has ended there. -/
def plainToken (x : Lexer) : Except Fault Lexer := do
  let x ← x.keepPlace
  let p ← Scalar.plain x.inFlow x.indent x.cursor
  return { x with keyAllowed := p.gap.broken }.pushRead
    (⟨.scalar p.text .plain, x.mark, p.stop⟩, p.cursor)

/-- The characters that do not begin a plain scalar by themselves. -/
def signs : List Char := "-?:,[]\x7b\x7d#&*!|>'\x22%@\x60".toList

/-- Whether a plain scalar begins with the character, given the one behind it. -/
def beginsPlain (inFlow : Bool) (c : Char) (next : Option Char) : Bool :=
  (!endsWord (some c) && !signs.contains c) || (c == '-' && !next.any isBlank) ||
    (!inFlow && (c == '?' || c == ':') && !endsWord next)

/-- The token that begins with the character here. -/
def readToken (x : Lexer) (c : Char) (next : Option Char) : Except Fault Lexer :=
  if x.mark.column = 0 ∧ c = '%' then do
    let x ← x.closeDocument
    return x.pushRead (← Property.directive x.cursor)
  else if x.cursor.atDocumentMark '-' then return (← x.closeDocument).pushSign .documentStart 3
  else if x.cursor.atDocumentMark '.' then return (← x.closeDocument).pushSign .documentEnd 3
  else if c = '[' then x.openFlow .flowSequenceStart
  else if c = '\x7b' then x.openFlow .flowMappingStart
  else if c = ']' then x.closeFlow .flowSequenceEnd
  else if c = '\x7d' then x.closeFlow .flowMappingEnd
  else if c = ',' then x.flowEntry
  else if c = '-' ∧ endsWord next then x.blockEntry
  else if c = '?' ∧ (x.inFlow || endsWord next) then x.keySign
  else if c = ':' ∧ (x.inFlow || endsWord next) then x.valueSign
  else if c = '*' then x.nodeToken (Property.named false)
  else if c = '&' then x.nodeToken (Property.named true)
  else if c = '!' then x.nodeToken (Property.tag x.inFlow)
  else if c = '|' ∧ !x.inFlow then x.blockToken true
  else if c = '>' ∧ !x.inFlow then x.blockToken false
  else if c = '\'' then x.nodeToken (Scalar.quoted true)
  else if c = '\x22' then x.nodeToken (Scalar.quoted false)
  else if beginsPlain x.inFlow c next then x.plainToken
  else
    mistake "found character that cannot start any token" x.mark
      (some ("while scanning for the next token", x.mark))

/-- Adds at least one token to those that wait. -/
def readNext (x : Lexer) : Except Fault Lexer :=
  if !x.started then .ok ({ x with started := true }.push .streamStart x.mark x.mark)
  else do
    let x ← (x.skipBlank (x.cursor.rest.length + 1)).dropStale
    let x := x.closeIndents x.mark.column
    match x.cursor.rest with
    | [] => x.readEnd
    | c :: rest => x.readToken c rest.head?

/-- Whether the first token that waits could still turn out to be a key. -/
def isUndecided (x : Lexer) : Bool :=
  (x.place :: x.outer).any fun place => place.any (·.number == x.taken)

/-- The tokens in order, and the mistake behind them if there is one. -/
def run : Nat → Lexer → List Token → List Token × Option Fault
  | 0, _, acc => (acc.reverse, none)
  | fuel + 1, x, acc =>
    match x.queue with
    | [] =>
      match x.readNext with
      | .error f => (acc.reverse, some f)
      | .ok x => run fuel x acc
    | t :: queue =>
      match x.dropStale with
      | .error f => (acc.reverse, some f)
      | .ok x =>
        if x.isUndecided then
          match x.readNext with
          | .error f => (acc.reverse, some f)
          | .ok x => run fuel x acc
        else if t.kind = .streamEnd then ((t :: acc).reverse, none)
        else run fuel { x with queue := queue, taken := x.taken + 1 } (t :: acc)

/-- The tokens of a text, and the mistake behind them if there is one. Every character
    gives rise to a few tokens at most. -/
def tokens (cs : List Char) : List Token × Option Fault :=
  run (8 * (cs.length + 4)) { cursor := ⟨cs, {}⟩ } []

end Lexer

end FileServer.Yaml
