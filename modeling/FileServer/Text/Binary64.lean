/-!
# Floating-point numbers in decimal

A number of double precision is read from decimal digits and written in decimal again.
Reading rounds to the nearest number there is, a tie going to the even one
(`Binary64.round`). Writing takes the fewest digits that read back as the same number,
and of those the nearest to it (`Binary64.shortest`), and sets them out with a point and
without an exponent.
-/

namespace FileServer

/-- A number of double precision. -/
inductive Binary64
  | nan
  | infinite (negative : Bool)
  /-- The number `mantissa * 2 ^ exponent`. -/
  | finite (negative : Bool) (mantissa : Nat) (exponent : Int)
  deriving DecidableEq, Repr

namespace Binary64

/-- The exponent of the smallest numbers. -/
def leastExponent : Int := -1074

/-- The exponent of the largest numbers. -/
def greatestExponent : Int := 971

/-- How many bits the mantissa has. -/
def mantissaBits : Nat := 53

/-- The quotient rounded to the nearest whole number, a tie to the even one. -/
def roundDiv (num den : Nat) : Nat :=
  let q := num / den
  let r := num % den
  if 2 * r < den then q else if den < 2 * r then q + 1 else q + q % 2

/-- The two sides of `num / den / 2 ^ exponent` as whole numbers. -/
def scaled (num den : Nat) (exponent : Int) : Nat × Nat :=
  if exponent < 0 then (num * Nat.pow 2 (-exponent).toNat, den)
  else (num, den * Nat.pow 2 exponent.toNat)

/-- The exponent that leaves a mantissa of the full width, as far as there is one. -/
def exponentFor (num den : Nat) : Int :=
  let guess := max leastExponent ((num.log2 : Int) - den.log2 - mantissaBits)
  let (n, d) := scaled num den guess
  if n / d ≥ Nat.pow 2 mantissaBits then guess + 1 else guess

/-- The mantissa and the exponent of the number nearest to `num / den`, unless that is
    too large for any. -/
def round (num den : Nat) : Option (Nat × Int) :=
  let e := exponentFor num den
  let (n, d) := scaled num den e
  let m := roundDiv n d
  let (m, e) :=
    if m = Nat.pow 2 mantissaBits then (Nat.pow 2 (mantissaBits - 1), e + 1) else (m, e)
  if greatestExponent < e then none else some (m, e)

/-- The number nearest to `digits * 10 ^ exponent`, unless that is too large for any.
    Exponents that are out of reach are not worked out. -/
def ofDecimal? (negative : Bool) (digits : Nat) (exponent : Int) : Option Binary64 :=
  let reach := ((Nat.toDigits 10 digits).length : Int) + exponent
  if digits = 0 ∨ reach < -400 then some (finite negative 0 leastExponent)
  else if 400 < reach then none
  else
    let ratio := if exponent < 0 then (digits, Nat.pow 10 (-exponent).toNat)
      else (digits * Nat.pow 10 exponent.toNat, 1)
    (round ratio.1 ratio.2).map fun (m, e) => finite negative m e

/-- The numbers that read back as `mantissa * 2 ^ exponent` lie between the first and the
    third of these, over the fourth, around the second. -/
def neighbourhood (mantissa : Nat) (exponent : Int) : Nat × Nat × Nat × Nat :=
  let below := if mantissa = Nat.pow 2 (mantissaBits - 1) ∧ leastExponent < exponent then 1 else 2
  let (unit, den) :=
    if exponent < 0 then (1, Nat.pow 2 (-exponent).toNat) else (Nat.pow 2 exponent.toNat, 1)
  ((4 * mantissa - below) * unit, 4 * mantissa * unit, (4 * mantissa + 2) * unit, 4 * den)

/-- The whole number `n` such that `n * 10 ^ k` reads back as the number, if there is one:
    the nearer of the two beside it, where both do. -/
def onGrid? (mantissa : Nat) (exponent k : Int) : Option Nat :=
  let (low, mid, high, den) := neighbourhood mantissa exponent
  let (up, down) := if k < 0 then (Nat.pow 10 (-k).toNat, 1) else (1, Nat.pow 10 k.toNat)
  -- `n * 10 ^ k` lies at `n * (down * den)` on the scale of the values times `up`
  let unit := down * den
  let closed := mantissa % 2 == 0
  let inside (n : Nat) : Bool :=
    if closed then low * up ≤ n * unit && n * unit ≤ high * up
    else low * up < n * unit && n * unit < high * up
  let n := mid * up / unit
  let nearer := if 2 * (mid * up - n * unit) ≤ unit then n else n + 1
  let other := if nearer = n then n + 1 else n
  if inside nearer then some nearer else if inside other then some other else none

/-- The greatest `k`, at most the one given, for which a multiple of `10 ^ k` reads back
    as the number, with that multiple. -/
def search (mantissa : Nat) (exponent : Int) : Nat → Int → Nat × Int
  | 0, k => (0, k)
  | fuel + 1, k =>
    match onGrid? mantissa exponent k with
    | some n => if n = 0 then search mantissa exponent fuel (k - 1) else (n, k)
    | none => search mantissa exponent fuel (k - 1)

/-- The fewest digits that read back as the number, and the power of ten of the last. -/
def shortest (mantissa : Nat) (exponent : Int) : Nat × Int :=
  search mantissa exponent 700 309

/-- Digits set out with a point: there is at least one on either side of it. -/
def positional (digits : Nat) (k : Int) : List Char :=
  let ds := Nat.toDigits 10 digits
  if 0 ≤ k then ds ++ List.replicate k.toNat '0' ++ ['.', '0']
  else
    let places := (-k).toNat
    let ds := List.replicate (places + 1 - ds.length) '0' ++ ds
    ds.take (ds.length - places) ++ '.' :: ds.drop (ds.length - places)

/-- The number in decimal. -/
def text : Binary64 → String
  | nan => "NaN"
  | infinite negative => if negative then "-inf" else "inf"
  | finite negative mantissa exponent =>
    let (digits, k) := if mantissa = 0 then (0, 0) else shortest mantissa exponent
    (if negative then "-" else "") ++ String.ofList (positional digits k)

end Binary64

end FileServer
