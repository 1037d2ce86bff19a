/-!
# Bytes

What travels over a socket and what lies in a file is a list of bytes. A text
enters such a list in UTF-8 (`Bytes.ofString`), which for ASCII is one byte per
character, and a number in decimal (`Bytes.ofNat`).
-/

namespace FileServer

/-- A run of bytes, first byte first. -/
abbrev Bytes := List UInt8

namespace Bytes

/-- The UTF-8 form of a list of characters. -/
def ofChars (cs : List Char) : Bytes := cs.flatMap String.utf8EncodeChar

/-- The UTF-8 form of a text. -/
def ofString (s : String) : Bytes := ofChars s.toList

/-- The decimal digits of a number, most significant first. -/
def ofNat (n : Nat) : Bytes := ofChars (Nat.toDigits 10 n)

@[simp] theorem ofChars_nil : ofChars [] = [] := rfl

theorem ofChars_cons (c : Char) (cs : List Char) :
    ofChars (c :: cs) = String.utf8EncodeChar c ++ ofChars cs := rfl

@[simp] theorem ofChars_append (a b : List Char) : ofChars (a ++ b) = ofChars a ++ ofChars b :=
  List.flatMap_append

@[simp] theorem ofString_append (a b : String) :
    ofString (a ++ b) = ofString a ++ ofString b := by
  simp [ofString]

end Bytes

end FileServer
