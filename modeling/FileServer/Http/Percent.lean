import FileServer.Bytes

/-!
# Percent escapes

A percent sign and two hexadecimal digits stand for one byte. `Percent.decode`
puts that byte in their place; a percent sign without two such digits behind it
stands for itself.
-/

namespace FileServer.Percent

/-- What a hexadecimal digit is worth, in either case. -/
def digit? (b : UInt8) : Option UInt8 :=
  if 48 ≤ b ∧ b ≤ 57 then some (b - 48)
  else if 65 ≤ b ∧ b ≤ 70 then some (b - 55)
  else if 97 ≤ b ∧ b ≤ 102 then some (b - 87)
  else none

/-- The byte that two hexadecimal digits stand for. -/
def pair? (high low : UInt8) : Option UInt8 := do
  let h ← digit? high
  let l ← digit? low
  return h * 16 + l

/-- The bytes with every escape replaced by what it stands for. -/
def decode : Bytes → Bytes
  | [] => []
  | 37 :: h :: l :: rest =>
    match pair? h l with
    | some b => b :: decode rest
    | none => 37 :: decode (h :: l :: rest)
  | b :: rest => b :: decode rest

end FileServer.Percent
