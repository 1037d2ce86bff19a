import FileServer.Http.Target

/-!
# Request heads

A request begins with a line of a method, a target and a version, then come header
lines, and an empty line ends the head. `RequestHead.read` takes a head off the front
of some bytes and tells how long it was. Only the target is interpreted, so all that
matters about a header line is that it is well-formed; at most `maxHeaders` of them
are allowed.

A head that is cut short is told apart from one that can never be completed: every
piece is read by a function of the bytes that are there, which fails with
`HeadError.incomplete` when they come to an end inside the piece and all of them
fit. A line ends with a line feed, and a carriage return may stand before it.
-/

namespace FileServer

/-- Why there is no request head at the front of some bytes. -/
inductive HeadError
  /-- The bytes end before the head does. -/
  | incomplete
  /-- The request line or a header line is malformed. -/
  | invalidRequest
  | tooManyHeaders
  /-- The target has no usable path. -/
  | invalidPath
  deriving DecidableEq, Repr

/-- What the server reads out of a request. -/
structure RequestHead where
  method : String
  /-- The path of the target. -/
  path : String
  /-- The digit behind the point of the version. -/
  version : Nat
  deriving DecidableEq, Repr

namespace RequestHead

/-- How many header lines a head may have. -/
def maxHeaders : Nat := 32

end RequestHead

/-- The wording of the failure. -/
def HeadError.message : HeadError → String
  | incomplete => "incomplete request head"
  | invalidRequest => "malformed request line or header"
  | tooManyHeaders => s!"more than {RequestHead.maxHeaders} headers"
  | invalidPath => "invalid request path"

namespace RequestHead

/-- A letter. -/
def isLetter (b : UInt8) : Bool := (65 ≤ b && b ≤ 90) || (97 ≤ b && b ≤ 122)

/-- A decimal digit. -/
def isDigit (b : UInt8) : Bool := 48 ≤ b && b ≤ 57

/-- The signs that a token may hold. -/
def tokenSigns : Bytes := Bytes.ofString "!#$%&'*+-.^_`|~"

/-- A byte of a method or of the name of a header. -/
def isTokenByte (b : UInt8) : Bool := isLetter b || isDigit b || tokenSigns.contains b

/-- A byte of a target: anything that shows, and anything outside ASCII. -/
def isTargetByte (b : UInt8) : Bool := 33 ≤ b && b != 127

/-- A byte of the value of a header: blanks too. -/
def isValueByte (b : UInt8) : Bool := 32 ≤ b && b != 127 || b == 9

/-- A line feed, which has to follow a carriage return. -/
def readLineFeed : Bytes → Except HeadError Bytes
  | [] => .error .incomplete
  | b :: rest => if b = 10 then .ok rest else .error .invalidRequest

/-- The end of a line. -/
def readLineEnd : Bytes → Except HeadError Bytes
  | [] => .error .incomplete
  | b :: rest => if b = 13 then readLineFeed rest else readLineFeed (b :: rest)

/-- Leaves out the empty lines in front of a head. -/
def skipEmptyLines : Bytes → Except HeadError Bytes
  | [] => .error .incomplete
  | 10 :: rest => skipEmptyLines rest
  | 13 :: 10 :: rest => skipEmptyLines rest
  | [13] => .error .incomplete
  | 13 :: _ => .error .invalidRequest
  | b :: rest => .ok (b :: rest)

/-- The bytes of a class up to a byte that ends them; there has to be at least one. -/
def readUntil (stop : UInt8) (isInside : UInt8 → Bool) (bs : Bytes) : Except HeadError (Bytes × Bytes) :=
  match bs.dropWhile isInside with
  | [] => .error .incomplete
  | b :: rest =>
    let inside := bs.takeWhile isInside
    if b = stop ∧ inside ≠ [] then .ok (inside, rest) else .error .invalidRequest

/-- The target, which has to be a text, and the blank behind it. -/
def readTarget (bs : Bytes) : Except HeadError (List Char × Bytes) := do
  let (target, rest) ← readUntil 32 isTargetByte bs
  match Utf8.decode? target with
  | none => throw .invalidRequest
  | some cs => return (cs, rest)

/-- What a version begins with. -/
def versionStart : Bytes := Bytes.ofString "HTTP/1."

/-- The version: its last digit is a zero or a one. -/
def readVersion (bs : Bytes) : Except HeadError (Nat × Bytes) :=
  if bs.length < 8 then
    if bs.take 7 = versionStart.take bs.length then .error .incomplete else .error .invalidRequest
  else if bs.take 7 = versionStart then
    match bs.drop 7 with
    | 48 :: rest => .ok (0, rest)
    | 49 :: rest => .ok (1, rest)
    | _ => .error .invalidRequest
  else .error .invalidRequest

/-- One header line: a name, a colon, a value and the end of the line. -/
def readHeader (bs : Bytes) : Except HeadError Bytes := do
  let (_, rest) ← readUntil 58 isTokenByte bs
  readLineEnd (rest.dropWhile isValueByte)

/-- The header lines, at most `room` of them, and the empty line behind them. -/
def readHeaders (room : Nat) (bs : Bytes) : Except HeadError Bytes :=
  match bs with
  | [] => .error .incomplete
  | b :: rest =>
    if b = 13 then readLineFeed rest
    else if b = 10 then .ok rest
    else
      match readHeader (b :: rest), room with
      | .error e, _ => .error e
      | .ok _, 0 => .error .tooManyHeaders
      | .ok rest, room + 1 => readHeaders room rest

/-- The parts of a head before the target is interpreted. -/
structure Parts where
  method : Bytes
  target : List Char
  version : Nat

/-- Takes the parts of a head off the front of some bytes. -/
def readParts (bs : Bytes) : Except HeadError (Parts × Bytes) := do
  let bs ← skipEmptyLines bs
  let (method, bs) ← readUntil 32 isTokenByte bs
  let (target, bs) ← readTarget bs
  let (version, bs) ← readVersion bs
  let bs ← readLineEnd bs
  let bs ← readHeaders maxHeaders bs
  return (⟨method, target, version⟩, bs)

/-- A text of ASCII bytes. -/
def ascii (bs : Bytes) : String := String.ofList (bs.map fun b => Char.ofNat b.toNat)

/-- Takes a head off the front of some bytes and tells how many of them it was. -/
def read (bs : Bytes) : Except HeadError (RequestHead × Nat) := do
  let (parts, rest) ← readParts bs
  match Target.pathChars? Authority.isValid parts.target with
  | none => throw .invalidPath
  | some path => return (⟨ascii parts.method, String.ofList path, parts.version⟩,
      bs.length - rest.length)

end RequestHead

end FileServer
