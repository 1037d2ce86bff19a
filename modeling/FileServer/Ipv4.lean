/-!
# Addresses of four numbers

An IPv4 address in the dotted form: four numbers from 0 to 255 in decimal,
without superfluous zeros, and a dot between each and the next.
-/

namespace FileServer

/-- An address of four numbers, each below 256. -/
structure Ipv4 where
  a : UInt8
  b : UInt8
  c : UInt8
  d : UInt8
  deriving DecidableEq, Repr

namespace Ipv4

/-- The number that decimal digits spell. -/
def decimal (digits : List Char) : Nat :=
  digits.foldl (fun n c => n * 10 + (c.toNat - '0'.toNat)) 0

/-- One of the four numbers, at the start of a text, and what follows it. -/
def octet? (cs : List Char) : Option (UInt8 × List Char) :=
  let digits := cs.takeWhile Char.isDigit
  if digits = [] ∨ 3 < digits.length ∨ (digits.head? = some '0' ∧ digits ≠ ['0'])
      ∨ 255 < decimal digits then none
  else some ((decimal digits).toUInt8, cs.dropWhile Char.isDigit)

/-- One of the four numbers behind a dot. -/
def dottedOctet? : List Char → Option (UInt8 × List Char)
  | '.' :: cs => octet? cs
  | _ => none

/-- The address that a text spells from end to end. -/
def ofChars? (cs : List Char) : Option Ipv4 := do
  let (a, cs) ← octet? cs
  let (b, cs) ← dottedOctet? cs
  let (c, cs) ← dottedOctet? cs
  let (d, cs) ← dottedOctet? cs
  if cs = [] then some ⟨a, b, c, d⟩ else none

/-- The address that a text spells from end to end. -/
def ofString? (s : String) : Option Ipv4 := ofChars? s.toList

/-- The dotted form. -/
def text (ip : Ipv4) : String := s!"{ip.a}.{ip.b}.{ip.c}.{ip.d}"

end Ipv4

end FileServer
