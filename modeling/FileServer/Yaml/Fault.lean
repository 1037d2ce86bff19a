/-!
# Faults of a document

A position in a text (`Mark`) and the ways in which a document can fail to be what
is asked for: it can be malformed, it can refer to what it does not hold, it
can come to an end too early or not at all, or a value in it can have the wrong form.
`Fault.message` words them; a position is shown with lines and columns counted from
one, and the very first one is left out.
-/

namespace FileServer.Yaml

/-- A position in a text: how many characters, lines and columns lie before it. -/
structure Mark where
  index : Nat := 0
  line : Nat := 0
  column : Nat := 0
  deriving DecidableEq, Repr, Inhabited

namespace Mark

/-- Whether the position is the beginning of the first line. -/
def isFirst (m : Mark) : Bool := m.line == 0 && m.column == 0

/-- The position in words, behind what it belongs to. -/
def text (m : Mark) : String :=
  if m.isFirst then "" else s!" at line {m.line + 1} column {m.column + 1}"

/-- Both marks lie at the same place. -/
def samePlace (a b : Mark) : Bool := a.line == b.line && a.column == b.column

end Mark

/-- What is wrong with a document. -/
inductive Fault
  /-- A character that no document holds, so many bytes from the start. -/
  | badCharacter (offset : Nat)
  /-- It is malformed at a position, perhaps within something that began
      earlier. -/
  | malformed (problem : String) (place : Mark) (context : Option (String × Mark))
  /-- A reference to an anchor that is not there. -/
  | unknownAnchor (place : Mark)
  /-- The document ends where a value is needed. -/
  | endOfInput
  /-- Another document follows. -/
  | secondDocument
  /-- A value does not have the right form; the text says how. -/
  | misfit (text : String) (path : String) (place : Option Mark)
  deriving DecidableEq, Repr

namespace Fault

/-- What surrounds a mistake in the notation, in words. -/
def contextText (place : Mark) : Option (String × Mark) → String
  | none => ""
  | some (context, start) =>
    s!", {context}" ++ if start.samePlace place then "" else start.text

/-- The wording of the fault. -/
def message : Fault → String
  | badCharacter offset =>
    "control characters are not allowed" ++ if offset = 0 then "" else s!" at position {offset}"
  | malformed problem place context => problem ++ place.text ++ contextText place context
  | unknownAnchor place => "unknown anchor" ++ place.text
  | endOfInput => "EOF while parsing a value"
  | secondDocument =>
    "deserializing from YAML containing more than one document is not supported"
  | misfit text path place =>
    (if path = "" then text else s!"{path}: {text}") ++ (place.map Mark.text).getD ""

end Fault

end FileServer.Yaml
