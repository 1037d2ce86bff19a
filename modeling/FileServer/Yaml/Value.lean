import FileServer.Text.Binary64
import FileServer.Text.Quoted
import FileServer.Yaml.Document

/-!
# What scalars mean

A plain scalar stands for nothing, a truth value, a whole number, a floating-point number
or a text, in this order of preference; a scalar in quotes or in a block stands for a text.
Whole numbers are written in decimal without leading zeros, or in hexadecimal, octal or
binary behind `0x`, `0o` or `0b`. A tag of the standard asks for one of these meanings.

`Scalar.unsigned?` and `Scalar.signed?` read whole numbers of 64 bits, and `Piece.misfit`
words the complaint that a piece is not what was expected.
-/

namespace FileServer.Yaml

/-! ## Whole numbers -/

/-- The number that digits of a base spell; there has to be at least one. -/
def digits? (base : Nat) (cs : List Char) : Option Nat :=
  if cs = [] then none
  else cs.foldlM (fun n c =>
    if isHexDigit c && hexValue c < base then some (n * base + hexValue c) else none) 0

/-- What stands behind the start of a text. -/
def behind? (start cs : List Char) : Option (List Char) :=
  if start.isPrefixOf cs then some (cs.drop start.length) else none

/-- The bases other than ten and what stands in front of their digits. -/
def bases : List (List Char × Nat) := [(['0', 'x'], 16), (['0', 'o'], 8), (['0', 'b'], 2)]

/-- A number in a base other than ten, behind `lead`. -/
def based? (lead cs : List Char) : Option Nat :=
  bases.findSome? fun (mark, base) => (behind? (lead ++ mark) cs).bind (digits? base)

/-- Without the sign in front, a zero and more digits: a text, not a number. -/
def isZeroLed (cs : List Char) : Bool :=
  let cs := if cs.head? = some '-' ∨ cs.head? = some '+' then cs.tail else cs
  match cs with
  | '0' :: d :: rest => (d :: rest).all Char.isDigit
  | _ => false

/-- Without a plus sign in front. -/
def withoutPlus (cs : List Char) : List Char := if cs.head? = some '+' then cs.tail else cs

/-- A sign. -/
def isSign (c : Char) : Bool := c == '+' || c == '-'

/-- A whole number without a minus sign. -/
def natural? (cs : List Char) : Option Nat :=
  let plain := withoutPlus cs
  (based? [] plain).or
    (if plain.head?.any isSign || isZeroLed cs then none else digits? 10 plain)

/-- A whole number with a minus sign. -/
def negative? (cs : List Char) : Option Nat :=
  (based? ['-'] cs).or
    (if isZeroLed cs then none else (behind? ['-'] cs).bind (digits? 10))

/-- A whole number below the limit and without a minus sign. -/
def naturalBelow? (limit : Nat) (cs : List Char) : Option Nat :=
  (natural? cs).filter (· < limit)

/-- A whole number with a minus sign and at most of the size. -/
def negativeUpTo? (size : Nat) (cs : List Char) : Option Nat :=
  (negative? cs).filter (· ≤ size)

/-! ## Floating-point numbers -/

/-- What stands behind the digits of a number: nothing, or an exponent. -/
def exponent? (cs : List Char) : Option Int :=
  match cs with
  | [] => some 0
  | e :: cs =>
    if e ≠ 'e' ∧ e ≠ 'E' then none
    else match cs with
      | '-' :: cs => (digits? 10 cs).map fun n => -(n : Int)
      | cs => (digits? 10 (withoutPlus cs)).map fun n => (n : Int)

/-- Decimal digits, perhaps with a point among them, and perhaps an exponent. -/
def decimal? (negative : Bool) (cs : List Char) : Option Binary64 := do
  let whole := cs.takeWhile Char.isDigit
  let rest := cs.dropWhile Char.isDigit
  let (part, rest) := if rest.head? = some '.'
    then (rest.tail.takeWhile Char.isDigit, rest.tail.dropWhile Char.isDigit)
    else ([], rest)
  let digits ← digits? 10 (whole ++ part)
  let exponent ← exponent? rest
  Binary64.ofDecimal? negative digits (exponent - part.length)

/-- A floating-point number. -/
def float? (cs : List Char) : Option Binary64 :=
  let plain := withoutPlus cs
  if cs.head? = some '+' ∧ plain.head?.any isSign then none
  else if [".inf", ".Inf", ".INF"].contains (String.ofList plain) then some (.infinite false)
  else if ["-.inf", "-.Inf", "-.INF"].contains (String.ofList cs) then some (.infinite true)
  else if [".nan", ".NaN", ".NAN"].contains (String.ofList cs) then some .nan
  else match plain with
    | '-' :: cs => decimal? true cs
    | cs => decimal? false cs

/-! ## Meanings -/

/-- A truth value. -/
def bool? (cs : List Char) : Option Bool :=
  if ["true", "True", "TRUE"].contains (String.ofList cs) then some true
  else if ["false", "False", "FALSE"].contains (String.ofList cs) then some false
  else none

/-- The ways to write that there is nothing. -/
def isNull (cs : List Char) : Bool := ["null", "Null", "NULL", "~"].contains (String.ofList cs)

/-- A whole number as a complaint names it; more than 64 bits are pointed out. -/
def wholeText? (cs : List Char) : Option String :=
  ((naturalBelow? (Nat.pow 2 64) cs).map fun n => s!"integer \x60{n}\x60").or <|
  ((negativeUpTo? (Nat.pow 2 63) cs).map fun n => s!"integer \x60{-(n : Int)}\x60").or <|
  ((naturalBelow? (Nat.pow 2 128) cs).map fun n => s!"integer \x60{n}\x60 as u128").or <|
  (negativeUpTo? (Nat.pow 2 127) cs).map fun n => s!"integer \x60{-(n : Int)}\x60 as i128"

/-- A text as a complaint names it. -/
def textText (cs : List Char) : String := "string " ++ Text.quoted (String.ofList cs)

/-- A truth value as a complaint names it. -/
def boolText (b : Bool) : String := s!"boolean \x60{b}\x60"

/-- A floating-point number as a complaint names it. -/
def floatText (x : Binary64) : String := s!"floating point \x60{x.text}\x60"

/-- A plain scalar without a tag as a complaint names it. -/
def plainText (cs : List Char) : String :=
  if cs = [] ∨ isNull cs then "unit value"
  else ((bool? cs).map boolText).getD <|
    (wholeText? cs).getD <|
    ((if isZeroLed cs then none else float? cs).map floatText).getD (textText cs)

/-- The tags of the standard. -/
def standardTag (name : String) : Bytes := Bytes.ofString ("tag:yaml.org,2002:" ++ name)

namespace Scalar

/-- A meaning that a tag asks for: what it is called, and the text of the meaning where the
    scalar has it. -/
def demanded? (s : Scalar) : Option (String × Option String) := do
  let tag ← s.tag
  if tag = standardTag "bool" then some ("a boolean", (bool? s.text).map boolText)
  else if tag = standardTag "int" then some ("an integer", wholeText? s.text)
  else if tag = standardTag "float" then some ("a float", (float? s.text).map floatText)
  else if tag = standardTag "null" then
    some ("null", if isNull s.text then some "unit value" else none)
  else none

/-- Whether the meaning of the scalar is the one of its text. -/
def isUntagged (s : Scalar) : Bool :=
  s.style == .plain && s.tag.all fun tag => tag.head? == some 33

/-- The complaint that the scalar is not what was expected. -/
def misfit (s : Scalar) (expected : String) : String :=
  match s.demanded? with
  | some (_, some found) => s!"invalid type: {found}, expected {expected}"
  | some (name, none) => s!"invalid value: {textText s.text}, expected {name}"
  | none =>
    let found := if s.isUntagged then plainText s.text else textText s.text
    s!"invalid type: {found}, expected {expected}"

/-- Whether the scalar may be read as a whole number: it is plain, or a block that is
    tagged so. -/
def mayBeWhole (s : Scalar) : Bool :=
  s.style == .plain || (s.style == .literal && s.tag == some (standardTag "int"))

/-- A whole number of 64 bits without a sign. -/
def unsigned? (s : Scalar) : Option Nat :=
  if s.mayBeWhole then naturalBelow? (Nat.pow 2 64) s.text else none

/-- A whole number of 64 bits with a sign. -/
def signed? (s : Scalar) : Option Int :=
  if s.mayBeWhole then
    ((naturalBelow? (Nat.pow 2 63) s.text).map Int.ofNat).or
      ((negativeUpTo? (Nat.pow 2 63) s.text).map fun n => -(n : Int))
  else none

end Scalar

/-- The complaint that a piece is not what was expected. -/
def Piece.misfit (expected : String) : Piece → String
  | .scalar s => s.misfit expected
  | .sequenceStart | .sequenceEnd => s!"invalid type: sequence, expected {expected}"
  | .mappingStart | .mappingEnd => s!"invalid type: map, expected {expected}"
  | .nothing | .reference _ => s!"invalid type: unit value, expected {expected}"

end FileServer.Yaml
