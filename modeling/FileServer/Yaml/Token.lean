import FileServer.Bytes
import FileServer.Yaml.Fault

/-!
# Tokens

What a document consists of below the level of its structure: marks between documents,
directives, the brackets of collections (written ones and those that indentation
stands for), entries, keys, values, properties of nodes, and scalars.
-/

namespace FileServer.Yaml

/-- How a scalar is written. -/
inductive ScalarStyle
  | plain
  | singleQuoted
  | doubleQuoted
  /-- A block whose line ends stay. -/
  | literal
  /-- A block whose line ends are folded. -/
  | folded
  deriving DecidableEq, Repr

/-- What a token is. -/
inductive TokenKind
  | streamStart
  | streamEnd
  /-- A directive that names the version. -/
  | version (major minor : Nat)
  /-- A directive that says what a tag handle stands for. -/
  | tagRule (handle : List Char) (meaning : Bytes)
  | documentStart
  | documentEnd
  | blockSequenceStart
  | blockMappingStart
  /-- The end of a collection that indentation marks. -/
  | blockEnd
  | flowSequenceStart
  | flowSequenceEnd
  | flowMappingStart
  | flowMappingEnd
  /-- The hyphen in front of an entry. -/
  | blockEntry
  /-- The comma between entries. -/
  | flowEntry
  | key
  | value
  /-- A reference to an anchored node. -/
  | reference (name : List Char)
  | anchor (name : List Char)
  | tag (handle : List Char) (rest : Bytes)
  | scalar (text : List Char) (style : ScalarStyle)
  deriving DecidableEq, Repr

/-- A token and where it stands. -/
structure Token where
  kind : TokenKind
  start : Mark
  stop : Mark
  deriving Repr

end FileServer.Yaml
