import FileServer.Yaml.Token

/-!
# Events

The structure of a document, one step at a time: where collections begin and end, the
scalars, and the references to anchored nodes. Every event lies at a position, that of the
first character that belongs to it.
-/

namespace FileServer.Yaml

/-- What is said about a node in front of it. -/
structure Properties where
  anchor : Option (List Char) := none
  /-- The tag in full. -/
  tag : Option Bytes := none
  deriving Repr

/-- A step through a stream of documents. -/
inductive EventKind
  | streamStart
  | streamEnd
  | documentStart
  | documentEnd
  /-- A reference to an anchored node. -/
  | reference (name : List Char)
  | scalar (properties : Properties) (text : List Char) (style : ScalarStyle)
  | sequenceStart (properties : Properties)
  | sequenceEnd
  | mappingStart (properties : Properties)
  | mappingEnd
  deriving Repr

/-- A step and where it lies. -/
structure Event where
  kind : EventKind
  mark : Mark
  deriving Repr

end FileServer.Yaml
