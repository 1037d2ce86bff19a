import FileServer.Http.Authority

/-!
# Request targets

A request names what it wants by a target: a path, behind which a query or a fragment
may stand. `Target.path?` takes the path out: a backslash counts as a slash, tabs and
line ends are skipped, dots lead about in the path, and percent escapes stand for
bytes, which have to spell a text without the null character.

A target that begins with two slashes of any kind names a host first. One that begins
with two plain slashes is refused outright; of the others the host is passed over,
though it has to be well-formed. What a well-formed host is does not matter otherwise:
`Target.pathWith?` takes the path out whatever hosts are `valid`, and `Target.path?` goes
by `Authority.isValid`.
-/

namespace FileServer.Target

/-- Either slash. -/
def isSlash (c : Char) : Bool := c == '/' || c == '\\'

/-- What ends the path. -/
def endsPath (c : Char) : Bool := c == '?' || c == '#'

/-- The target without the blanks at its end and without tabs and line ends. -/
def cleaned (target : List Char) : List Char :=
  (target.reverse.dropWhile (·.toNat ≤ 0x20)).reverse.filter fun c =>
    c != '\t' && c != '\n' && c != '\r'

/-- The pieces of a path between slashes of either kind. -/
def pieces : List Char → List (List Char)
  | [] => [[]]
  | c :: cs =>
    if isSlash c then [] :: pieces cs
    else match pieces cs with
      | [] => [[c]]
      | piece :: rest => (c :: piece) :: rest

/-- A dot, plain or escaped, at the start of a piece, taken away. -/
def dropDot? : List Char → Option (List Char)
  | '.' :: cs => some cs
  | '%' :: '2' :: e :: cs => if e = 'e' ∨ e = 'E' then some cs else none
  | _ => none

/-- One dot, plain or escaped: the piece leads nowhere. -/
def isDot (piece : List Char) : Bool := dropDot? piece == some []

/-- Two dots, plain or escaped: the piece leads back. -/
def isDotDot (piece : List Char) : Bool := (dropDot? piece).bind dropDot? == some []

/-- A drive, that is, a letter and a colon or a bar; nothing leads back over it. -/
def isDrive : List Char → Bool
  | [c, d] => c.isAlpha && (d == ':' || d == '|')
  | _ => false

/-- The pieces without the last one, which come last first. -/
def back : List (List Char) → List (List Char)
  | [] => []
  | piece :: before => if isDrive piece then piece :: before else before

/-- Where the pieces lead: those passed through, the last first, and the piece behind
    the last slash. -/
def follow (passed : List (List Char)) : List (List Char) → List (List Char) × List Char
  | [] => (passed, [])
  | [last] =>
    if isDotDot last then (back passed, [])
    else if isDot last then (passed, [])
    else (passed, last)
  | piece :: rest =>
    if isDotDot piece then follow (back passed) rest
    else if isDot piece then follow passed rest
    else follow (piece :: passed) rest

/-- The path that pieces spell once the dots in it have been followed. -/
def plainPath (ps : List (List Char)) : List Char :=
  let (passed, last) := follow [] ps
  '/' :: passed.reverse.flatMap (· ++ ['/']) ++ last

/-- The path that a text with escapes spells. -/
def unescape? (path : List Char) : Option (List Char) := do
  let cs ← Utf8.decode? (Percent.decode (Bytes.ofChars path))
  if '\x00' ∈ cs then none else some cs

/-- What stands behind the slashes in front of the path, once a host between them and
    the path has been passed over, which has to be `valid`. -/
def relative? (valid : List Char → Bool) (target : List Char) : Option (List Char) :=
  let behind := target.dropWhile isSlash
  if target.length < behind.length + 2 then some (target.drop 1)
  else
    let rest := match target with
      | '/' :: '/' :: cs => cs
      | _ => behind
    let authority := rest.takeWhile fun c => !isSlash c && !endsPath c
    if !valid authority then none
    else
      let after := rest.drop authority.length
      some (if after.head?.any isSlash then after.drop 1 else after)

/-- The path of a target, with a host in front of it or without one. -/
def pathChars? (valid : List Char → Bool) (target : List Char) : Option (List Char) :=
  match target with
  | '/' :: '/' :: _ => none
  | '/' :: _ => do
    let rest ← relative? valid (cleaned target)
    unescape? (plainPath (pieces (rest.takeWhile fun c => !endsPath c)))
  | _ => none

/-- The path of a target, where hosts have to be `valid`. -/
def pathWith? (valid : List Char → Bool) (target : String) : Option String :=
  (pathChars? valid target.toList).map String.ofList

/-- The path of a target. -/
def path? (target : String) : Option String := pathWith? Authority.isValid target

end FileServer.Target
