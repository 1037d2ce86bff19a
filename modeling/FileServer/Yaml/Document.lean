import FileServer.Yaml.Event.Grammar

/-!
# Documents

A document is a list of pieces: the events between its beginning and its end, with every
reference replaced by the number of an anchor. Anchors are numbered by how many names
were known before them, and a number stands for the piece that got it last.

`Document.ofText` reads the first document of a text. The whole text is gone through for
characters that no document holds before anything else is done with it.
-/

namespace FileServer.Yaml

/-- A scalar of a document. -/
structure Scalar where
  text : List Char
  style : ScalarStyle
  tag : Option Bytes := none
  deriving DecidableEq, Repr

/-- A piece of a document. -/
inductive Piece
  /-- All there is of a document that holds nothing. -/
  | nothing
  | scalar (s : Scalar)
  | sequenceStart
  | sequenceEnd
  | mappingStart
  | mappingEnd
  /-- What the anchor of that number stands for. -/
  | reference (number : Nat)
  deriving DecidableEq, Repr

/-- An empty scalar without quotes, which can stand for nothing. -/
def Piece.isEmptyPlain : Piece → Bool
  | scalar s => s.text.isEmpty && s.style == .plain
  | _ => false

/-- A document, as far as it could be read. -/
structure Document where
  pieces : List (Piece × Mark) := []
  /-- The anchors by number, each with the index of the piece it stands for. -/
  anchors : List (Nat × Nat) := []
  /-- Why there are no more pieces, if something is wrong. -/
  fault : Option Fault := none
  /-- Whether something other than the end of the stream follows. -/
  followed : Bool := false
  deriving Repr

namespace Document

/-- What a piece stands for: a reference for what was anchored, all else for itself. -/
def resolve (d : Document) (piece : Piece × Mark) : Piece × Mark :=
  match piece.1 with
  | .reference number => ((d.anchors.lookup number).bind (d.pieces[·]?)).getD piece
  | _ => piece

/-- A character that documents may hold. -/
def isAllowed (c : Char) : Bool :=
  let n := c.toNat
  n == 0x09 || n == 0x0A || n == 0x0D || (0x20 ≤ n && n ≤ 0x7E) || n == 0x85 ||
    (0xA0 ≤ n && n ≤ 0xD7FF) || (0xE000 ≤ n && n ≤ 0xFFFD) || 0x10000 ≤ n

/-- Where the first character lies that no document holds, in bytes. -/
def badOffset? (offset : Nat) : List Char → Option Nat
  | [] => none
  | c :: cs => if isAllowed c then badOffset? (offset + c.utf8Size) cs else some offset

/-- A document that is being put together. -/
structure Assembly where
  /-- The pieces so far, last first, and how many they are. -/
  pieces : List (Piece × Mark) := []
  count : Nat := 0
  /-- The numbers of the names known. -/
  names : List (List Char × Nat) := []
  /-- The indices of the pieces that numbers stand for. -/
  anchors : List (Nat × Nat) := []

namespace Assembly

/-- One more piece. -/
def add (a : Assembly) (piece : Piece) (mark : Mark) : Assembly :=
  { a with pieces := (piece, mark) :: a.pieces, count := a.count + 1 }

/-- Gives the next piece a name. -/
def name (a : Assembly) (anchor : Option (List Char)) : Assembly :=
  match anchor with
  | none => a
  | some name =>
    let number := a.names.length
    { a with
      names := (name, number) :: a.names.filter (·.1 != name)
      anchors := (number, a.count) :: a.anchors }

/-- The document put together. -/
def finish (a : Assembly) (fault : Option Fault) (followed : Bool) : Document :=
  ⟨a.pieces.reverse, a.anchors, fault, followed⟩

end Assembly

/-- Puts the first document of a stream together. The stream ends with the fault, if there
    is one. -/
def assemble (fault : Option Fault) (a : Assembly) : List Event → Document
  | [] => a.finish (some (fault.getD .endOfInput)) false
  | e :: events =>
    match e.kind with
    | .streamStart | .documentStart => assemble fault a events
    | .streamEnd => (a.add .nothing e.mark).finish none false
    | .documentEnd =>
      a.finish none (match events.head? with
        | some next => match next.kind with
          | .streamEnd => false
          | _ => true
        | none => true)
    | .reference name =>
      match a.names.lookup name with
      | some number => assemble fault (a.add (.reference number) e.mark) events
      | none => a.finish (some (.unknownAnchor e.mark)) false
    | .scalar p text style =>
      assemble fault ((a.name p.anchor).add (.scalar ⟨text, style, p.tag⟩) e.mark) events
    | .sequenceStart p => assemble fault ((a.name p.anchor).add .sequenceStart e.mark) events
    | .sequenceEnd => assemble fault (a.add .sequenceEnd e.mark) events
    | .mappingStart p => assemble fault ((a.name p.anchor).add .mappingStart e.mark) events
    | .mappingEnd => assemble fault (a.add .mappingEnd e.mark) events

/-- The first document of a text. -/
def ofText (text : String) : Document :=
  match badOffset? 0 text.toList with
  | some offset => { fault := some (.badCharacter offset) }
  | none =>
    let (tokens, fault) := Lexer.tokens text.toList
    let (events, fault) := Event.ofTokens tokens fault
    assemble fault {} events

end Document

end FileServer.Yaml
