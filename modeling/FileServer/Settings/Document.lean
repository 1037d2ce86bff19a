import FileServer.FileTree
import FileServer.Settings
import FileServer.Text.Blank
import FileServer.Yaml.Value

/-!
# Settings in a document

A document with settings is a mapping from the names of settings to their values. Names
that are no settings are passed over together with their values, and a name may be given
once only. `Settings.ofText` reads such a document and checks the outcome; a blank text
leaves every setting at its default. `Settings.load` looks for the document in the working
directory, where it may be missing.
-/

namespace FileServer

open Yaml

/-- A setting. -/
inductive Setting
  | listenAddress
  | listenPort
  | backlog
  | documentRoot
  | staticFolder
  | dynamicFolder
  | notFoundPage
  | chunkSize
  | maxRequestSize
  | inFlight
  deriving DecidableEq, Repr

namespace Setting

/-- All settings. -/
def all : List Setting :=
  [listenAddress, listenPort, backlog, documentRoot, staticFolder, dynamicFolder, notFoundPage,
    chunkSize, maxRequestSize, inFlight]

/-- The name of the setting in a document. -/
def name : Setting → String
  | listenAddress => "listen_addr"
  | listenPort => "listen_port"
  | backlog => "backlog"
  | documentRoot => "document_root"
  | staticFolder => "static_folder"
  | dynamicFolder => "dynamic_folder"
  | notFoundPage => "not_found_page"
  | chunkSize => "chunk_size"
  | maxRequestSize => "max_request_size"
  | inFlight => "aio_max_events"

/-- The setting of that name. -/
def ofName? (name : List Char) : Option Setting := all.find? fun s => s.name.toList == name

/-- What the values of a setting may be. -/
inductive Form
  /-- A whole number up to the limit, called by a name. -/
  | unsigned (limit : Nat) (called : String)
  /-- A whole number between the limits, called by a name. -/
  | signed (least greatest : Int) (called : String)
  /-- A text, called by a name. -/
  | text (called : String)

/-- What a value of the form is called. -/
def Form.called : Form → String
  | unsigned _ called => called
  | signed _ _ called => called
  | text called => called

/-- The form of the setting. -/
def form : Setting → Form
  | listenAddress | staticFolder | dynamicFolder => .text "a string"
  | documentRoot | notFoundPage => .text "path string"
  | listenPort => .unsigned 65535 "u16"
  | backlog => .signed (-2147483648) 2147483647 "i32"
  | chunkSize | maxRequestSize => .unsigned (Nat.pow 2 64 - 1) "usize"
  | inFlight => .unsigned (Nat.pow 2 32 - 1) "u32"

/-- A value of a setting. -/
inductive Value
  | natural (n : Nat)
  | whole (n : Int)
  | text (s : String)

/-- The value that a scalar has in a form, or the complaint that it has none. -/
def Form.read (f : Form) (s : Scalar) : Except String Value :=
  match f with
  | unsigned limit called =>
    match s.unsigned? with
    | none => .error (s.misfit called)
    | some n =>
      if n ≤ limit then .ok (.natural n)
      else .error s!"invalid value: integer \x60{n}\x60, expected {called}"
  | signed least greatest called =>
    match s.signed? with
    | none => .error (s.misfit called)
    | some n =>
      if least ≤ n ∧ n ≤ greatest then .ok (.whole n)
      else .error s!"invalid value: integer \x60{n}\x60, expected {called}"
  | text _ => .ok (.text (String.ofList s.text))

/-- The settings with a value in place of what was there. -/
def set (s : Settings) : Setting → Value → Settings
  | listenAddress, .text v => { s with listenAddress := v }
  | listenPort, .natural v => { s with listenPort := v }
  | backlog, .whole v => { s with backlog := v }
  | documentRoot, .text v => { s with documentRoot := v }
  | staticFolder, .text v => { s with staticFolder := v }
  | dynamicFolder, .text v => { s with dynamicFolder := v }
  | notFoundPage, .text v => { s with notFoundPage := v }
  | chunkSize, .natural v => { s with chunkSize := v }
  | maxRequestSize, .natural v => { s with maxRequestSize := v }
  | inFlight, .natural v => { s with inFlight := v }
  | _, _ => s

/-- Reads the value of the setting from a piece. The complaint names the path to the
    value and where it lies. -/
def read (setting : Setting) (path : String) (piece : Piece × Mark) : Except Fault Value :=
  let complaint : Except String Value := match piece.1 with
    | .scalar s => setting.form.read s
    | other => .error (other.misfit setting.form.called)
  match complaint with
  | .ok v => .ok v
  | .error text => .error (.misfit text path (some piece.2))

end Setting

namespace Settings

/-- The pieces behind a whole node, `depth` collections of which are open; none if the
    pieces end before the node does. -/
def skipNode (depth : Nat) : List (Piece × Mark) → Option (List (Piece × Mark))
  | [] => none
  | (piece, _) :: rest =>
    match piece with
    | .sequenceStart | .mappingStart => skipNode (depth + 1) rest
    | .sequenceEnd | .mappingEnd => if depth ≤ 1 then some rest else skipNode (depth - 1) rest
    | _ => if depth = 0 then some rest else skipNode depth rest

/-- The fault of a document that ends too early. -/
def tooShort (d : Document) : Fault := d.fault.getD .endOfInput

/-- The name that a piece is, and the path to what it names: a name that is given by
    reference is not shown in the path. -/
def nameOf (d : Document) (piece : Piece × Mark) : Except Fault (List Char × String) :=
  match d.resolve piece with
  | (.scalar s, _) =>
    .ok (s.text, match piece.1 with
      | .reference _ => "?"
      | _ => String.ofList s.text)
  | (other, mark) => .error (.misfit (other.misfit "field identifier") "" (some mark))

/-- Reads pairs of a mapping that began at `start`, as long as there are any. -/
def readPairs (d : Document) (start : Mark) :
    Nat → List Setting → Settings → List (Piece × Mark) → Except Fault Settings
  | 0, _, _, _ => .error (tooShort d)
  | fuel + 1, given, s, pieces =>
    match pieces with
    | [] => .error (tooShort d)
    | (.mappingEnd, _) :: _ => .ok s
    | piece :: rest => do
      let (name, path) ← nameOf d piece
      match Setting.ofName? name with
      | none =>
        match skipNode 0 rest with
        | some rest => readPairs d start fuel given s rest
        | none => .error (tooShort d)
      | some setting =>
        if setting ∈ given then
          .error (.misfit s!"duplicate field \x60{setting.name}\x60" "" (some start))
        else match rest with
          | [] => .error (tooShort d)
          | value :: rest =>
            let v ← setting.read path (d.resolve value)
            readPairs d start fuel (setting :: given) (setting.set s v) rest

/-- The settings in a document, the others at their defaults. -/
def ofDocument (d : Document) : Except Fault Settings := do
  let s ← match d.pieces with
    | [] => .error (tooShort d)
    | (.nothing, _) :: _ => .ok {}
    | (.mappingStart, start) :: rest => readPairs d start (rest.length + 1) [] {} rest
    | (piece, mark) :: _ =>
      if piece.isEmptyPlain then .ok {}
      else .error (.misfit (piece.misfit "struct Config") "" (some mark))
  match d.fault with
  | some f => throw f
  | none => if d.followed then throw .secondDocument else return s

/-- The settings that a text gives, checked. -/
def ofText (text : String) : Except SettingsError Settings :=
  if Text.isBlank text then .ok {}
  else do
    match ofDocument (Document.ofText text) with
    | .error f => throw (.malformed f)
    | .ok s =>
      s.check
      return s

/-- The failure of a file that is no text. -/
def notText : SystemError := .own .invalidData "stream did not contain valid UTF-8"

/-- The settings in the file at a path. -/
def ofFile (t : FileTree) (path : String) : Except SettingsError Settings :=
  match t.read path with
  | .error e => .error (.unreadable e)
  | .ok content =>
    match Utf8.decodeString? content with
    | none => .error (.unreadable notText)
    | some text => ofText text

/-- Where settings are looked for. -/
def fileName : String := "tideway.yaml"

/-- The settings in the working directory, or the defaults where there are none. -/
def load (t : FileTree) : Except SettingsError Settings :=
  if t.hasPath fileName then ofFile t fileName else .ok {}

end Settings

end FileServer
