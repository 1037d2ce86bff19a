import FileServer.Yaml.Event
import FileServer.Yaml.Token.Lexer

/-!
# The events of a stream of tokens

`Event.ofTokens` follows the grammar of documents. A stream is a series of documents, a
document is a node, and a node is a reference, a scalar or a collection, in the notation
with brackets or in the one with indentation, perhaps with properties in front. Where the
grammar wants a node and none is there, an empty plain scalar stands for it.

A mistake does not undo what was read before it: the events up to it are kept, and the
fault is given beside them.
-/

namespace FileServer.Yaml

/-- What is left of the tokens, and what was made of those before them. -/
structure Walk where
  tokens : List Token
  /-- Why there are no more tokens behind these. -/
  fault : Option Fault
  /-- The events so far, last first. -/
  events : List Event := []
  /-- What the tag handles of the current document stand for. -/
  tagRules : List (List Char × Bytes) := []

/-- A walk through the tokens, which may meet a mistake. -/
abbrev Walking (α : Type) := ExceptT Fault (StateM Walk) α

namespace Walking

/-- A mistake. -/
def mistake {α : Type} (problem : String) (place : Mark)
    (context : Option (String × Mark)) : Walking α :=
  throw (.malformed problem place context)

/-- The next token. -/
def peek : Walking Token := do
  let w ← get
  match w.tokens with
  | t :: _ => return t
  | [] => throw (w.fault.getD .endOfInput)

/-- Passes the next token. -/
def skip : Walking Unit := modify fun w => { w with tokens := w.tokens.tail }

/-- Makes an event. -/
def emit (kind : EventKind) (mark : Mark) : Walking Unit :=
  modify fun w => { w with events := ⟨kind, mark⟩ :: w.events }

/-- Stands for a node that is not there. -/
def emptyNode (mark : Mark) : Walking Unit := emit (.scalar {} [] .plain) mark

/-! ## Properties -/

/-- The tag that a handle and the characters behind it stand for. -/
def fullTag (handle : List Char) (rest : Bytes) (start place : Mark) : Walking Bytes := do
  if handle = [] then return rest
  match (← get).tagRules.lookup handle with
  | some meaning => return meaning ++ rest
  | none => mistake "found undefined tag handle" place (some ("while parsing a node", start))

/-- What stands in front of a node. -/
structure Front where
  anchor : Option (List Char) := none
  /-- The handle, the rest and the position of the tag. -/
  tag : Option (List Char × Bytes × Mark) := none

/-- Passes the anchor and the tag in front of a node, each at most once. -/
def front : Walking Front := do
  match (← peek).kind with
  | .anchor name =>
    skip
    let t ← peek
    match t.kind with
    | .tag handle rest => skip; return ⟨some name, some (handle, rest, t.start)⟩
    | _ => return ⟨some name, none⟩
  | .tag handle rest =>
    let place := (← peek).start
    skip
    match (← peek).kind with
    | .anchor name => skip; return ⟨some name, some (handle, rest, place)⟩
    | _ => return ⟨none, some (handle, rest, place)⟩
  | _ => return {}

/-- The properties of the node that began at `start`. -/
def properties (f : Front) (start : Mark) : Walking Properties := do
  match f.tag with
  | none => return ⟨f.anchor, none⟩
  | some (handle, rest, place) => return ⟨f.anchor, some (← fullTag handle rest start place)⟩

/-- The properties of a scalar: the tag that only says that there is one goes. -/
def scalarProperties (p : Properties) : Properties :=
  if p.tag = some (Bytes.ofString "!") then { p with tag := none } else p

/-! ## Nodes -/

/-- A mark that ends the entries of a mapping, or begins the next one. -/
def endsBlockValue : TokenKind → Bool
  | .key | .value | .blockEnd => true
  | _ => false

/-- A mark that ends an entry of a sequence without indentation of its own. -/
def endsIndentlessEntry : TokenKind → Bool
  | .blockEntry | .key | .value | .blockEnd => true
  | _ => false

/-- A mark that ends an entry of a sequence. -/
def endsBlockEntry : TokenKind → Bool
  | .blockEntry | .blockEnd => true
  | _ => false

/-- A mark that ends a value in a sequence in brackets. -/
def endsSequenceValue : TokenKind → Bool
  | .flowEntry | .flowSequenceEnd => true
  | _ => false

/-- A mark that ends a value in a mapping in brackets. -/
def endsMappingValue : TokenKind → Bool
  | .flowEntry | .flowMappingEnd => true
  | _ => false

/-- Passes a comma in front of every entry but the first. -/
def separator (first : Bool) (problem context : String) (start : Mark) : Walking Unit := do
  if !first then
    let t ← peek
    if t.kind = .flowEntry then skip
    else mistake problem t.start (some (context, start))

mutual

/-- A node. In a block it may be a collection by indentation; as the value of a key it may
    be a sequence at the column of the key. -/
def node (block indentless : Bool) : Nat → Walking Unit
  | 0 => throw .endOfInput
  | fuel + 1 => do
    let first ← peek
    match first.kind with
    | .reference name => emit (.reference name) first.start; skip
    | _ =>
      let f ← front
      let start := first.start
      let p ← properties f start
      let t ← peek
      match t.kind with
      | .blockEntry =>
        if indentless then
          emit (.sequenceStart p) start
          indentlessEntries fuel
        else bare block f p start t
      | .scalar text style => emit (.scalar (scalarProperties p) text style) start; skip
      | .flowSequenceStart =>
        emit (.sequenceStart p) start
        skip
        flowEntries t.start true fuel
      | .flowMappingStart =>
        emit (.mappingStart p) start
        skip
        flowPairs t.start true fuel
      | .blockSequenceStart =>
        if block then
          emit (.sequenceStart p) start
          skip
          blockEntries t.start fuel
        else bare block f p start t
      | .blockMappingStart =>
        if block then
          emit (.mappingStart p) start
          skip
          blockPairs t.start fuel
        else bare block f p start t
      | _ => bare block f p start t
where
  /-- Properties stand for an empty scalar when nothing follows them. -/
  bare (block : Bool) (f : Front) (p : Properties) (start : Mark) (t : Token) : Walking Unit :=
    if f.anchor.isSome || f.tag.isSome then emit (.scalar p [] .plain) start
    else mistake "did not find expected node content" t.start
      (some (if block then "while parsing a block node" else "while parsing a flow node", start))

/-- The entries of a sequence by indentation. -/
def blockEntries (start : Mark) : Nat → Walking Unit
  | 0 => throw .endOfInput
  | fuel + 1 => do
    let t ← peek
    match t.kind with
    | .blockEntry =>
      skip
      if endsBlockEntry (← peek).kind then emptyNode t.stop
      else node true false fuel
      blockEntries start fuel
    | .blockEnd => emit .sequenceEnd t.start; skip
    | _ =>
      mistake "did not find expected '-' indicator" t.start
        (some ("while parsing a block collection", start))

/-- The entries of a sequence without indentation of its own. -/
def indentlessEntries : Nat → Walking Unit
  | 0 => throw .endOfInput
  | fuel + 1 => do
    let t ← peek
    match t.kind with
    | .blockEntry =>
      skip
      if endsIndentlessEntry (← peek).kind then emptyNode t.stop
      else node true false fuel
      indentlessEntries fuel
    | _ => emit .sequenceEnd t.start

/-- The pairs of a mapping by indentation. -/
def blockPairs (start : Mark) : Nat → Walking Unit
  | 0 => throw .endOfInput
  | fuel + 1 => do
    let t ← peek
    match t.kind with
    | .key =>
      skip
      if endsBlockValue (← peek).kind then emptyNode t.stop
      else node true true fuel
      blockValue fuel
      blockPairs start fuel
    | .blockEnd => emit .mappingEnd t.start; skip
    | _ =>
      mistake "did not find expected key" t.start
        (some ("while parsing a block mapping", start))

/-- The value of a pair in a mapping by indentation. -/
def blockValue : Nat → Walking Unit
  | 0 => throw .endOfInput
  | fuel + 1 => do
    let t ← peek
    match t.kind with
    | .value =>
      skip
      if endsBlockValue (← peek).kind then emptyNode t.stop
      else node true true fuel
    | _ => emptyNode t.start

/-- The entries of a sequence in brackets. An entry may be a pair, which is a mapping of
    its own. -/
def flowEntries (start : Mark) (first : Bool) : Nat → Walking Unit
  | 0 => throw .endOfInput
  | fuel + 1 => do
    let t ← peek
    if t.kind = .flowSequenceEnd then emit .sequenceEnd t.start; skip
    else
      separator first "did not find expected ',' or ']'" "while parsing a flow sequence" start
      let t ← peek
      match t.kind with
      | .key =>
        emit (.mappingStart {}) t.start
        skip
        entryPair fuel
        flowEntries start false fuel
      | .flowSequenceEnd => emit .sequenceEnd t.start; skip
      | _ =>
        node false false fuel
        flowEntries start false fuel

/-- The key and the value of a pair that is an entry. A key that is missing takes the sign
    behind it along. -/
def entryPair : Nat → Walking Unit
  | 0 => throw .endOfInput
  | fuel + 1 => do
    let t ← peek
    if t.kind = .value || endsSequenceValue t.kind then
      skip
      emptyNode t.stop
    else node false false fuel
    let t ← peek
    if t.kind = .value then
      skip
      let t ← peek
      if endsSequenceValue t.kind then emptyNode t.start else node false false fuel
    else emptyNode t.start
    emit .mappingEnd (← peek).start

/-- The pairs of a mapping in brackets. -/
def flowPairs (start : Mark) (first : Bool) : Nat → Walking Unit
  | 0 => throw .endOfInput
  | fuel + 1 => do
    let t ← peek
    if t.kind = .flowMappingEnd then emit .mappingEnd t.start; skip
    else
      separator first "did not find expected ',' or '\x7d'" "while parsing a flow mapping" start
      let t ← peek
      match t.kind with
      | .key =>
        skip
        let t ← peek
        if t.kind = .value || endsMappingValue t.kind then emptyNode t.start
        else node false false fuel
        flowValue fuel
        flowPairs start false fuel
      | .flowMappingEnd => emit .mappingEnd t.start; skip
      | _ =>
        node false false fuel
        emptyNode (← peek).start
        flowPairs start false fuel

/-- The value of a pair in a mapping in brackets. -/
def flowValue : Nat → Walking Unit
  | 0 => throw .endOfInput
  | fuel + 1 => do
    let t ← peek
    if t.kind = .value then
      skip
      let t ← peek
      if endsMappingValue t.kind then emptyNode t.start else node false false fuel
    else emptyNode t.start

end

/-! ## Documents -/

/-- The meanings that tag handles have unless a directive says otherwise. -/
def standardRules : List (List Char × Bytes) :=
  [("!".toList, Bytes.ofString "!"), ("!!".toList, Bytes.ofString "tag:yaml.org,2002:")]

/-- Passes directives; each may be given once. -/
def directives (versioned : Bool) : Nat → Walking Unit
  | 0 => throw .endOfInput
  | fuel + 1 => do
    let t ← peek
    match t.kind with
    | .version major minor =>
      if versioned then mistake "found duplicate %YAML directive" t.start none
      else if major ≠ 1 ∨ (minor ≠ 1 ∧ minor ≠ 2) then
        mistake "found incompatible YAML document" t.start none
      else
        skip
        directives true fuel
    | .tagRule handle meaning =>
      if ((← get).tagRules.lookup handle).isSome then
        mistake "found duplicate %TAG directive" t.start none
      else
        modify fun w => { w with tagRules := w.tagRules ++ [(handle, meaning)] }
        skip
        directives versioned fuel
    | _ => modify fun w => { w with tagRules := w.tagRules ++ standardRules }

/-- Whether a token begins a document with directives or a mark, or ends the stream. -/
def isExplicit : TokenKind → Bool
  | .version _ _ | .tagRule _ _ | .documentStart | .streamEnd => true
  | _ => false

/-- Whether a token leaves the document in front of it empty. -/
def endsDocument (k : TokenKind) : Bool := isExplicit k || k = .documentEnd

/-- Passes the marks behind a document. -/
def skipDocumentEnds : Nat → Walking Unit
  | 0 => return
  | fuel + 1 => do
    if (← peek).kind = .documentEnd then
      skip
      skipDocumentEnds fuel

/-- The documents of a stream; only the first one may go without a mark in front. -/
def documents (first : Bool) : Nat → Walking Unit
  | 0 => throw .endOfInput
  | fuel + 1 => do
    modify fun w => { w with tagRules := [] }
    if !first then skipDocumentEnds fuel
    let t ← peek
    if t.kind = .streamEnd then
      emit .streamEnd t.start
      skip
    else
      if first && !isExplicit t.kind then
        directives false fuel
        emit .documentStart t.start
        node true false fuel
      else
        directives false fuel
        let mark ← peek
        if mark.kind ≠ .documentStart then
          mistake "did not find expected <document start>" mark.start none
        emit .documentStart t.start
        skip
        let t ← peek
        if endsDocument t.kind then emptyNode t.start else node true false fuel
      let t ← peek
      if t.kind = .documentEnd then skip
      emit .documentEnd t.start
      documents false fuel

/-- A stream of documents. -/
def stream (fuel : Nat) : Walking Unit := do
  let t ← peek
  skip
  emit .streamStart t.start
  documents true fuel

end Walking

/-- The events of a stream, and the fault behind them if there is one. -/
def Event.ofTokens (tokens : List Token) (fault : Option Fault) : List Event × Option Fault :=
  let (result, w) := (Walking.stream (4 * (tokens.length + 4))).run ⟨tokens, fault, [], []⟩
  (w.events.reverse, match result with
    | .ok _ => none
    | .error f => some f)

end FileServer.Yaml
