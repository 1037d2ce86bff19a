/-!
# Punycode

A label of a domain name that holds other than ASCII characters is written in
ASCII: its ASCII characters, a hyphen, and digits that tell one by one which
character to insert where. `Punycode.decode?` carries the insertions out.
-/

namespace FileServer.Punycode

/-- How far the digits have been read. -/
structure Progress where
  /-- The characters so far. -/
  out : List Char
  /-- The code point of the last inserted character. -/
  code : Nat := 128
  /-- Where the number being read started from. -/
  start : Nat := 0
  /-- The number being read. -/
  index : Nat := 0
  /-- What the next digit counts for. -/
  weight : Nat := 1
  /-- The place of the next digit. -/
  place : Nat := 36
  bias : Nat := 72

/-- What a digit is worth. -/
def digit? (c : Char) : Option Nat :=
  if 'a' ≤ c ∧ c ≤ 'z' then some (c.toNat - 97)
  else if 'A' ≤ c ∧ c ≤ 'Z' then some (c.toNat - 65)
  else if '0' ≤ c ∧ c ≤ '9' then some (c.toNat - 48 + 26)
  else none

/-- Divides a distance by 35 until it is below 456, and tells what is left and 36 for
    each division. -/
def scale (k distance : Nat) : Nat → Nat
  | 0 => k
  | fuel + 1 =>
    if distance > 455 then scale (k + 36) (distance / 35) fuel
    else k + 36 * distance / (distance + 38)

/-- The bias after an insertion that lay so far behind the one before it. -/
def adapt (distance count : Nat) (first : Bool) : Nat :=
  let distance := if first then distance / 700 else distance / 2
  let distance := distance + distance / count
  scale 0 distance distance

/-- Below this a digit ends its number. -/
def threshold (p : Progress) : Nat :=
  if p.place ≤ p.bias then 1 else min 26 (p.place - p.bias)

/-- Takes one digit. -/
def step (p : Progress) (c : Char) : Option Progress := do
  let d ← digit? c
  let index := p.index + d * p.weight
  if index ≥ Nat.pow 2 32 then none
  else if d < threshold p then
    let count := p.out.length + 1
    let code := p.code + index / count
    let pos := index % count
    if h : code.isValidChar then
      some { out := p.out.insertIdx pos (Char.ofNatAux code h), code := code, start := pos + 1,
             index := pos + 1, bias := adapt (index - p.start) count (p.start == 0) }
    else none
  else
    some { p with index := index, weight := p.weight * (36 - threshold p), place := p.place + 36 }

/-- The text behind the last hyphen and the text before it. -/
def splitLastHyphen (cs : List Char) : List Char × List Char :=
  let tail := (cs.reverse.takeWhile (· != '-')).reverse
  (tail, cs.take (cs.length - tail.length - 1))

/-- The label that its ASCII form, without the mark in front, stands for. -/
def decode? (cs : List Char) : Option (List Char) := do
  let (digits, basic) := splitLastHyphen cs
  if basic.any (·.toNat ≥ 0x80) then none
  let p ← digits.foldlM step { out := basic }
  if p.weight = 1 ∧ p.place = 36 then some p.out else none

end FileServer.Punycode
