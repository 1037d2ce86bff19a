import FileServer.Yaml.Cursor
import FileServer.Yaml.Token

/-!
# Reading scalars

The three notations of a scalar. A plain one ends where a sign of the structure or a
comment begins; a quoted one ends at its quote; and a block begins on the next line and
ends where the indentation does. Line ends inside the first two are folded. Every reader
gets the cursor at the first character and gives back the token and what follows it.
-/

namespace FileServer.Yaml.Scalar

/-- A mistake inside a scalar that began at `start`. -/
def mistake {α : Type} (context problem : String) (start place : Mark) : Except Fault α :=
  .error (.malformed problem place (some (context, start)))

/-! ## Plain scalars -/

/-- The signs that end a plain scalar inside brackets. -/
def flowSigns : List Char := [',', '[', ']', '\x7b', '\x7d']

/-- The characters up to a separator or a sign of the structure; inside brackets a colon
    in front of such a sign is refused, and the number of characters before it given. -/
def plainRun (inFlow : Bool) (taken : Nat) : List Char → Except Nat (List Char)
  | [] => .ok []
  | c :: cs =>
    if endsWord (some c) then .ok []
    else if inFlow && c == ':' && cs.head?.any (fun x => x == '?' || flowSigns.contains x) then
      .error taken
    else if (c == ':' && endsWord cs.head?) || (inFlow && flowSigns.contains c) then .ok []
    else (plainRun inFlow (taken + 1) cs).map (c :: ·)

/-- What has been read of a plain scalar. -/
structure PlainProgress where
  text : List Char := []
  /-- The gap behind the text. -/
  gap : Gap := {}
  /-- Where the text ends. -/
  stop : Mark
  cursor : Cursor

/-- Reads a plain scalar on, a run and the gap behind it at a time. -/
def plainLoop (inFlow : Bool) (indent : Int) (start : Mark) :
    Nat → PlainProgress → Except Fault PlainProgress
  | 0, p => .ok p
  | fuel + 1, p =>
    let context := "while scanning a plain scalar"
    if p.cursor.atAnyDocumentMark || p.cursor.isAt '#' then .ok p
    else
      match plainRun inFlow 0 p.cursor.rest with
      | .error n => mistake context "found unexpected ':'" start (p.cursor.advance n).mark
      | .ok run =>
        let cursor := p.cursor.advance run.length
        let p := if run = [] then p
          else ⟨p.text ++ p.gap.text ++ run, {}, cursor.mark, cursor⟩
        if !p.cursor.head?.any fun c => endsWord (some c) then .ok p
        else
          match p.gap.read indent p.cursor.mark p.cursor.rest with
          | .error place =>
            mistake context "found a tab character that violates indentation" start place
          | .ok (gap, cursor) =>
            let p := { p with gap := gap, cursor := cursor }
            if !inFlow && cursor.mark.column < indent then .ok p
            else plainLoop inFlow indent start fuel p

/-- A plain scalar; the progress tells whether a line ended behind it. -/
def plain (inFlow : Bool) (indent : Int) (c : Cursor) : Except Fault PlainProgress :=
  plainLoop inFlow (indent + 1) c.mark (c.rest.length + 1) ⟨[], {}, c.mark, c⟩

/-! ## Quoted scalars -/

/-- What a letter behind a backslash stands for. -/
def escaped? : Char → Option Char
  | '0' => some '\x00'
  | 'a' => some '\x07'
  | 'b' => some '\x08'
  | 't' => some '\t'
  | '\t' => some '\t'
  | 'n' => some '\n'
  | 'v' => some '\x0b'
  | 'f' => some '\x0c'
  | 'r' => some '\r'
  | 'e' => some '\x1b'
  | ' ' => some ' '
  | '\x22' => some '\x22'
  | '/' => some '/'
  | '\\' => some '\\'
  | 'N' => some '\u0085'
  | '_' => some '\u00a0'
  | 'L' => some '\u2028'
  | 'P' => some '\u2029'
  | _ => none

/-- How many hexadecimal digits a letter behind a backslash calls for. -/
def codeLength? : Char → Option Nat
  | 'x' => some 2
  | 'u' => some 4
  | 'U' => some 8
  | _ => none

/-- A character given by a backslash, with the letters behind it, and how many characters
    that takes; else what is wrong. -/
def escape (cs : List Char) : Except String (Char × Nat) :=
  match cs with
  | [] => .error "found unknown escape character"
  | c :: cs =>
    match escaped? c, codeLength? c with
    | some x, _ => .ok (x, 2)
    | none, some n =>
      let digits := (cs.take n).takeWhile isHexDigit
      if digits.length < n then .error "did not find expected hexdecimal number"
      else
        let code := digits.foldl (fun v d => v * 16 + hexValue d) 0
        if h : code.isValidChar then .ok (Char.ofNatAux code h, n + 2)
        else .error "found invalid Unicode character escape code"
    | none, none => .error "found unknown escape character"

/-- How a run inside a quoted scalar ended. -/
structure QuotedRun where
  text : List Char
  /-- A backslash in front of a line end, which has been passed. -/
  joined : Bool := false
  cursor : Cursor

/-- The characters up to a separator or the closing quote. -/
def quotedRun (single : Bool) (start : Mark) :
    Nat → List Char → Cursor → Except Fault QuotedRun
  | 0, text, c => .ok ⟨text, false, c⟩
  | fuel + 1, text, c =>
    match c.rest with
    | [] => .ok ⟨text, false, c⟩
    | x :: rest =>
      if endsWord (some x) then .ok ⟨text, false, c⟩
      else if single then
        if x = '\'' then
          if rest.head? = some '\'' then
            quotedRun single start fuel (text ++ ['\'']) (c.advance 2)
          else .ok ⟨text, false, c⟩
        else quotedRun single start fuel (text ++ [x]) (c.advance 1)
      else if x = '\x22' then .ok ⟨text, false, c⟩
      else if x = '\\' then
        if rest.head?.any isBreak then .ok ⟨text, true, (c.advance 1).skipBreak⟩
        else
          match escape rest with
          | .error problem =>
            let place := if (rest.head?.bind codeLength?).isSome then c.advance 2 else c
            mistake "while parsing a quoted scalar" problem start place.mark
          | .ok (y, n) => quotedRun single start fuel (text ++ [y]) (c.advance n)
      else quotedRun single start fuel (text ++ [x]) (c.advance 1)

/-- Reads a quoted scalar on behind its opening quote, a run and a gap at a time. -/
def quotedLoop (single : Bool) (start : Mark) :
    Nat → List Char → Cursor → Except Fault (List Char × Cursor)
  | 0, text, c => .ok (text, c)
  | fuel + 1, text, c =>
    let context := "while scanning a quoted scalar"
    if c.atAnyDocumentMark then
      mistake context "found unexpected document indicator" start c.mark
    else if c.rest = [] then mistake context "found unexpected end of stream" start c.mark
    else do
      let run ← quotedRun single start (c.rest.length + 1) text c
      if run.cursor.isAt (if single then '\'' else '\x22') then
        return (run.text, run.cursor.advance 1)
      let gap : Gap := { broken := run.joined }
      match gap.read 0 run.cursor.mark run.cursor.rest with
      | .error place => mistake context "found unexpected end of stream" start place
      | .ok (gap, cursor) => quotedLoop single start fuel (run.text ++ gap.text) cursor

/-- A quoted scalar. -/
def quoted (single : Bool) (c : Cursor) : Except Fault (Token × Cursor) := do
  let (text, after) ← quotedLoop single c.mark (c.rest.length + 1) [] (c.advance 1)
  let style := if single then ScalarStyle.singleQuoted else .doubleQuoted
  return (⟨.scalar text style, c.mark, after.mark⟩, after)

/-! ## Blocks -/

/-- What becomes of the line ends behind a block. -/
inductive Chomping
  /-- All are dropped. -/
  | strip
  /-- The first one stays. -/
  | clip
  /-- All stay. -/
  | keep
  deriving DecidableEq, Repr

/-- What is said about a block on its first line. -/
structure BlockHeader where
  chomping : Chomping := .clip
  /-- How much further the lines are indented, if it is said. -/
  increment : Option Nat := none

/-- The sign for the line ends behind a block. -/
def chomping? : Option Char → Option Chomping
  | some '+' => some .keep
  | some '-' => some .strip
  | _ => none

/-- The digit for the indentation. -/
def increment? (start : Mark) (c : Cursor) : Except Fault (Option Nat × Cursor) :=
  match c.head? with
  | some d =>
    if d = '0' then
      mistake "while scanning a block scalar" "found an indentation indicator equal to 0" start c.mark
    else if d.isDigit then .ok (some (d.toNat - 48), c.advance 1)
    else .ok (none, c)
  | none => .ok (none, c)

/-- The signs behind the one that begins a block, in either order. -/
def blockHeader (start : Mark) (c : Cursor) : Except Fault (BlockHeader × Cursor) := do
  match chomping? c.head? with
  | some chomping =>
    let (increment, c) ← increment? start (c.advance 1)
    return (⟨chomping, increment⟩, c)
  | none =>
    let (increment, c) ← increment? start c
    match increment, chomping? c.head? with
    | some _, some chomping => return (⟨chomping, increment⟩, c.advance 1)
    | _, _ => return (⟨.clip, increment⟩, c)

/-- Empty lines of a block. -/
structure EmptyLines where
  /-- What stands for their ends. -/
  text : List Char := []
  /-- The deepest column that was reached. -/
  deepest : Nat := 0
  /-- Where the last line end lies. -/
  stop : Mark
  cursor : Cursor

/-- Passes empty lines, up to the indentation where it is known. -/
def emptyLines (indent : Option Nat) (start : Mark) : Nat → EmptyLines → Except Fault EmptyLines
  | 0, e => .ok e
  | fuel + 1, e =>
    let width := match indent with
      | none => e.cursor.rest.length
      | some n => n - e.cursor.mark.column
    let c := e.cursor.advance ((e.cursor.rest.take width).takeWhile (· == ' ')).length
    let e := { e with deepest := max e.deepest c.mark.column, cursor := c }
    if indent.all (c.mark.column < ·) && c.isAt '\t' then
      mistake "while scanning a block scalar"
        "found a tab character where an indentation space is expected" start c.mark
    else if !c.head?.any isBreak then .ok e
    else
      let after := c.skipBreak
      emptyLines indent start fuel
        { e with text := e.text ++ c.breakText, stop := after.mark, cursor := after }

/-- What has been read of a block. -/
structure BlockProgress where
  text : List Char := []
  /-- What stands for the end of the last line. -/
  lineEnd : List Char := []
  /-- What stands for the ends of the empty lines behind it. -/
  empties : List Char := []
  /-- Whether the last line began with a blank. -/
  blankStart : Bool := false
  stop : Mark
  cursor : Cursor

/-- The text between two lines of a block: a folded line end becomes a space, unless
    empty lines follow it or a line beside it begins with a blank. -/
def between (literal : Bool) (p : BlockProgress) (blankNext : Bool) : List Char :=
  if !literal && p.lineEnd.head? == some '\n' && !p.blankStart && !blankNext then
    if p.empties = [] then [' '] else p.empties
  else p.lineEnd ++ p.empties

/-- Reads the lines of a block. -/
def blockLoop (literal : Bool) (indent : Nat) (start : Mark) :
    Nat → BlockProgress → Except Fault BlockProgress
  | 0, p => .ok p
  | fuel + 1, p =>
    if p.cursor.mark.column ≠ indent ∨ p.cursor.rest = [] then .ok p
    else do
      let blank := p.cursor.head?.any isBlank
      let (line, c) := p.cursor.span fun x => !isBreak x
      let after := c.skipBreak
      let e ← emptyLines (some indent) start (after.rest.length + 1)
        { stop := after.mark, cursor := after }
      blockLoop literal indent start fuel
        ⟨p.text ++ between literal p blank ++ line, c.breakText, e.text, blank, e.stop, e.cursor⟩

/-- A block. The indentation of its lines is said, or that of its first line that is not
    empty. -/
def block (literal : Bool) (indent : Int) (c : Cursor) : Except Fault (Token × Cursor) := do
  let start := c.mark
  let (header, c) ← blockHeader start (c.advance 1)
  let c := (c.skipWhile isBlank).skipComment
  if !c.atLineEnd then
    mistake "while scanning a block scalar" "did not find expected comment or line break"
      start c.mark
  else
    let c := c.skipBreak
    let said := header.increment.map fun n => ((max indent 0) + (n : Int)).toNat
    let e ← emptyLines said start (c.rest.length + 1) { stop := c.mark, cursor := c }
    let width := said.getD (max (max e.deepest (indent + 1).toNat) 1)
    let p ← blockLoop literal width start (c.rest.length + 1)
      { empties := e.text, stop := e.stop, cursor := e.cursor }
    let tail := match header.chomping with
      | .strip => []
      | .clip => p.lineEnd
      | .keep => p.lineEnd ++ p.empties
    let style := if literal then ScalarStyle.literal else .folded
    return (⟨.scalar (p.text ++ tail) style, start, p.stop⟩, p.cursor)

end FileServer.Yaml.Scalar
