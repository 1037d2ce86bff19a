import FileServer.Bytes

/-!
# UTF-8

Reading bytes as text. `Utf8.decode?` is strict: it accepts exactly the shortest
forms of the scalar values, so a surrogate, an overlong form, a value above
U+10FFFF or a sequence cut short makes it fail. `Utf8.next?` reads one character
and leaves the rest, and `decode?` repeats it.
-/

namespace FileServer.Utf8

/-- A byte that continues a sequence, `10xxxxxx`. -/
def isContinuation (b : UInt8) : Bool := b &&& 0xC0 == 0x80

/-- What the first byte of a sequence announces. -/
structure Lead where
  /-- How many continuation bytes follow. -/
  more : Nat
  /-- The payload bits of the first byte itself. -/
  high : Nat
  /-- The first scalar value that needs a sequence this long. -/
  least : Nat

/-- The announcement of a first byte; a continuation byte announces nothing. -/
def lead? (b : UInt8) : Option Lead :=
  if b < 0x80 then some ⟨0, b.toNat, 0⟩
  else if b < 0xC0 then none
  else if b < 0xE0 then some ⟨1, b.toNat - 0xC0, 0x80⟩
  else if b < 0xF0 then some ⟨2, b.toNat - 0xE0, 0x800⟩
  else if b < 0xF8 then some ⟨3, b.toNat - 0xF0, 0x10000⟩
  else none

/-- The number made of the payload bits `high` and those of the continuation bytes. -/
def value (high : Nat) (tail : Bytes) : Nat :=
  tail.foldl (fun n b => n * 64 + (b.toNat - 0x80)) high

/-- The scalar value `n`, if it is one and lies at or above `least`. -/
def scalar? (least n : Nat) : Option Char :=
  if n < least then none else if h : n.isValidChar then some (Char.ofNatAux n h) else none

/-- The first character of the bytes and what follows it. -/
def next? : Bytes → Option (Char × Bytes)
  | [] => none
  | b :: rest => do
    let lead ← lead? b
    let tail := rest.take lead.more
    if tail.length < lead.more || !tail.all isContinuation then none
    else
      let c ← scalar? lead.least (value lead.high tail)
      return (c, rest.drop lead.more)

/-- Reading a character uses up at least one byte. -/
theorem length_lt_of_next? {bs rest : Bytes} {c : Char} (h : next? bs = some (c, rest)) :
    rest.length < bs.length := by
  cases bs with
  | nil => simp [next?] at h
  | cons b bs =>
    simp only [next?, Option.bind_eq_bind, Option.bind_eq_some_iff] at h
    obtain ⟨lead, -, h⟩ := h
    split at h
    · simp at h
    · obtain ⟨c', -, h⟩ := Option.bind_eq_some_iff.1 h
      simp only [Option.pure_def, Option.some.injEq, Prod.mk.injEq] at h
      simp only [← h.2, List.length_drop, List.length_cons]
      omega

/-- The text that the bytes spell, if all of them are well-formed. -/
def decode? (bs : Bytes) : Option (List Char) :=
  match bs with
  | [] => some []
  | b :: bs' =>
    match _h : next? (b :: bs') with
    | none => none
    | some (c, rest) => (decode? rest).map (c :: ·)
termination_by bs.length
decreasing_by exact length_lt_of_next? _h

/-- The text that the bytes spell, as a string. -/
def decodeString? (bs : Bytes) : Option String := (decode? bs).map String.ofList

end FileServer.Utf8
