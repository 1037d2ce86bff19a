import FileServer.Bytes
import FileServer.Http.Domain.Characters
import FileServer.Http.Domain.Composition
import FileServer.Http.Domain.Direction
import FileServer.Http.Domain.Folding
import FileServer.Http.Domain.Joiner
import FileServer.Http.Domain.Punycode
import FileServer.Text.Printable
import FileServer.Text.Utf8

/-!
# Domain names

The plain form of a domain name: letters in lower case, compatibility forms spelled
out, characters without meaning dropped, letters and marks put together. `Domain.plain?`
fails on a name that holds a character no name may hold, on a label that begins with a
mark, on a joiner out of place, on an ASCII form that stands for no label, and on
directions that do not go together.
-/

namespace FileServer.Domain

/-- The ASCII characters that no domain name holds. -/
def isForbidden (c : Char) : Bool :=
  c.toNat ≤ 0x20 || c.toNat == 0x7F || "%#/:<>?@[\\]^|".toList.contains c

/-- What stands for a character in the plain form. -/
def mapped (c : Char) : Option (List Char) :=
  let n := c.toNat
  if n < 0x80 then some [c.toLower]
  else if Text.inRanges n ignoredRanges then some []
  else if Text.inRanges n disallowedRanges then none
  else some ((standIn? c).getD [c])

/-- A character that is its own plain form. -/
def isPlain (c : Char) : Bool := mapped c == some [c] && !isForbidden c

/-- A label that begins with no mark and has every joiner in its place. -/
def isLabel (cs : List Char) : Bool :=
  match cs with
  | [] => true
  | c :: _ => !Text.inRanges c.toNat markRanges && joinersInPlace cs

/-- The mark of a label in its ASCII form. -/
def encodedMark : List Char := "xn--".toList

/-- The label that a written one stands for, which may be in its ASCII form. -/
def label? (cs : List Char) : Option (List Char) :=
  if encodedMark.isPrefixOf cs then do
    let label ← Punycode.decode? (cs.drop encodedMark.length)
    if label.any (·.toNat ≥ 0x80) && label.all isPlain && composed label == label && isLabel label
    then some label
    else none
  else if isLabel cs then some cs
  else none

/-- The labels of a name. -/
def labels : List Char → List (List Char)
  | [] => [[]]
  | c :: cs =>
    if c = '.' then [] :: labels cs
    else match labels cs with
      | [] => [[c]]
      | label :: rest => (c :: label) :: rest

/-- Whether labels may stand in one name: if anything in them runs from right to left, each
    has to keep to its direction. -/
def agreeInDirection (labels : List (List Char)) : Bool :=
  !labels.any (·.any runsRight) || labels.all keepsDirection

/-- The plain form of a name. -/
def plain? (cs : List Char) : Option (List Char) := do
  let parts ← cs.mapM mapped
  let name := composed parts.flatten
  let read ← (labels name).mapM label?
  if name.any isForbidden || !agreeInDirection read then none else some name

end FileServer.Domain
