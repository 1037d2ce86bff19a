import FileServer.LazyBytes
import FileServer.Path
import FileServer.SystemError
import FileServer.Text.Utf8

/-!
# The file tree

Where the documents lie. A tree says what stands at each location: a directory,
a regular file or a symbolic link. A file has an identity of its own, apart from
its locations, and its content belongs to that identity: whoever has opened a
file keeps reading it after it was removed, and sees what is written over it.

* `FileTree.walk` follows a path piece by piece, from the working directory or
  from the top, through at most `maxLinks` symbolic links.
* `FileTree.openRegular` opens a path for reading and refuses everything but a
  regular file.
* `FileTree.write`, `FileTree.makeDirectory`, `FileTree.link` and
  `FileTree.remove` change what stands at a location.
-/

namespace FileServer

/-- The identity of a regular file. -/
abbrev FileId := Nat

/-- The names from the top of the tree down to a place in it. -/
abbrev Location := List (List Char)

/-- What stands at a location. -/
inductive Node
  | directory
  | file (id : FileId)
  /-- A symbolic link with the path it holds. -/
  | link (target : List Char)
  deriving DecidableEq, Repr

/-- What stands where, and what is in the files. The top itself is a directory
    without being listed. -/
structure FileTree where
  nodes : List (Location × Node)
  contents : List (FileId × LazyBytes)
  /-- The identity that the next new file gets. -/
  fresh : FileId
  /-- The working directory, where relative paths begin. -/
  home : Location
  deriving Repr

/-- Where a path leads. -/
inductive Place
  /-- Something stands there. -/
  | taken (loc : Location) (node : Node)
  /-- Only the last name is missing. -/
  | vacant (loc : Location)
  deriving Repr

namespace FileTree

/-- How many symbolic links one path may lead through. -/
def maxLinks : Nat := 40

/-- How many bytes a single name may have. -/
def maxName : Nat := 255

/-- How many bytes a path needs to be too long. -/
def pathLimit : Nat := 4096

/-- How large a file may be. -/
def maxSize : Nat := Nat.pow 2 44 - 4096

/-- A working directory with nothing in it. -/
def empty : FileTree where
  nodes := [(["work".toList], .directory)]
  contents := []
  fresh := 0
  home := ["work".toList]

/-- What stands at a location. -/
def node? (t : FileTree) (loc : Location) : Option Node :=
  if loc = [] then some .directory else t.nodes.lookup loc

/-- The content of a file, as it is kept. -/
def stored? (t : FileTree) (id : FileId) : Option LazyBytes := t.contents.lookup id

/-- The content of a file. -/
def content? (t : FileTree) (id : FileId) : Option Bytes := (t.stored? id).map LazyBytes.toBytes

theorem content?_eq_some {t : FileTree} {id : FileId} {content : Bytes} :
    t.content? id = some content ↔ ∃ stored, t.stored? id = some stored ∧ stored.toBytes = content :=
  Option.map_eq_some_iff

theorem content?_of_stored {t : FileTree} {id : FileId} {stored : LazyBytes}
    (h : t.stored? id = some stored) : t.content? id = some stored.toBytes :=
  content?_eq_some.2 ⟨stored, h, rfl⟩

/-- The pieces of a path that have to be walked: the empty ones lead nowhere, but
    a slash at the end asks for a directory just as a dot behind it would. -/
def steps (path : List Char) : List (List Char) :=
  (Path.splitSlash path).filter (· != []) ++
    (if path.getLast? = some '/' then [Path.here] else [])

/-- Where the path starts. -/
def start (here : Location) (path : List Char) : Location :=
  if path.head? = some '/' then [] else here

/-- Walks the pieces `todo` from the directory `here`, through at most `links`
    symbolic links. -/
def walk (t : FileTree) (links : Nat) (here : Location) (todo : List (List Char)) :
    Except SystemError Place :=
  match todo with
  | [] => .ok (.taken here .directory)
  | name :: todo =>
    if name = Path.here then walk t links here todo
    else if name = Path.parent then walk t links here.dropLast todo
    else if (Bytes.ofChars name).length > maxName then .error (.os .nameTooLong)
    else
      let there := here ++ [name]
      match t.node? there with
      | none => if todo = [] then .ok (.vacant there) else .error .noEntry
      | some .directory => walk t links there todo
      | some (.file id) => if todo = [] then .ok (.taken there (.file id)) else .error (.os .notDirectory)
      | some (.link target) =>
        match links with
        | 0 => .error (.os .tooManyLinks)
        | links + 1 => walk t links (start here target) (steps target ++ todo)
termination_by (links, todo.length)

/-- Where a path leads, seen from the working directory. -/
def locate (t : FileTree) (path : String) : Except SystemError Place :=
  let cs := path.toList
  if '\x00' ∈ cs then
    .error (.own .invalidInput "file name contained an unexpected NUL byte")
  else if cs = [] then .error .noEntry
  else if (Bytes.ofChars cs).length ≥ pathLimit then .error (.os .nameTooLong)
  else t.walk maxLinks (start t.home cs) (steps cs)

/-- What a path leads to, if there is anything. -/
def find (t : FileTree) (path : String) : Except SystemError Node := do
  match ← t.locate path with
  | .taken _ node => return node
  | .vacant _ => throw .noEntry

/-- Whether a path leads to anything. -/
def hasPath (t : FileTree) (path : String) : Bool := (t.find path).toOption.isSome

/-- The refusal to open anything but a regular file. -/
def notRegular : SystemError := .own .invalidInput "not a regular file"

/-- Opens a path for reading; only a regular file will do. -/
def openRegular (t : FileTree) (path : String) : Except SystemError FileId := do
  match ← t.find path with
  | .file id => return id
  | _ => throw notRegular

/-- How long an open file is. -/
def size (t : FileTree) (id : FileId) : Except SystemError Nat :=
  match t.stored? id with
  | some content => .ok content.length
  | none => .error .badDescriptor

/-- A file is as long as its content. -/
theorem size_eq (t : FileTree) (id : FileId) : t.size id =
    match t.content? id with
    | some content => .ok content.length
    | none => .error .badDescriptor := by
  rw [size, content?]
  cases t.stored? id with
  | none => rfl
  | some stored => exact congrArg Except.ok stored.length_toBytes.symm

/-- The content of the file at a path. -/
def read (t : FileTree) (path : String) : Except SystemError Bytes := do
  match ← t.find path with
  | .file id =>
    match t.content? id with
    | some content => return content
    | none => throw .badDescriptor
  | _ => throw (.os .isDirectory)

/-- The first entry of `key` replaced, or a new one at the end. -/
def put {α β : Type} [BEq α] (key : α) (value : β) : List (α × β) → List (α × β)
  | [] => [(key, value)]
  | (k, v) :: rest => if k == key then (key, value) :: rest else (k, v) :: put key value rest

/-- Gives a file the content. -/
def setContent (t : FileTree) (id : FileId) (content : LazyBytes) : FileTree :=
  { t with contents := put id content t.contents }

/-- Puts something at a location, in place of what is there. -/
def place (t : FileTree) (loc : Location) (node : Node) : FileTree :=
  { t with nodes := put loc node t.nodes }

/-- Puts a new file at a location. -/
def create (t : FileTree) (loc : Location) (content : LazyBytes) : FileTree :=
  let t := t.place loc (.file t.fresh)
  { t with contents := put t.fresh content t.contents, fresh := t.fresh + 1 }

/-- Makes the directories that lead to the last of the pieces `todo`, as far as
    they are missing. -/
def makeParents (t : FileTree) (here : Location) : List (List Char) → FileTree
  | [] => t
  | [_] => t
  | name :: todo =>
    let there := if name = Path.here then here
      else if name = Path.parent then here.dropLast else here ++ [name]
    let t := if (t.node? there).isNone then t.place there .directory else t
    makeParents t there todo

/-- The tree with every directory that leads to the path. -/
def withParents (t : FileTree) (path : String) : FileTree :=
  t.makeParents (start t.home path.toList) (steps path.toList)

/-- Writes a file: one that is there gets the new content, one that is not is
    created together with the directories that lead to it. -/
def write (t : FileTree) (path : String) (content : LazyBytes) : Except SystemError FileTree :=
  let t := t.withParents path
  match t.locate path with
  | .ok (.taken _ (.file id)) => .ok (t.setContent id content)
  | .ok (.taken _ _) => .error (.os .isDirectory)
  | .ok (.vacant loc) => .ok (t.create loc content)
  | .error e => .error e

/-- Makes a directory and those that lead to it. -/
def makeDirectory (t : FileTree) (path : String) : Except SystemError FileTree :=
  let t := t.withParents path
  match t.locate path with
  | .ok (.taken _ .directory) => .ok t
  | .ok (.taken _ _) => .error (.os .entryExists)
  | .ok (.vacant loc) => .ok (t.place loc .directory)
  | .error e => .error e

/-- The location that a path names, without following a link that stands there. -/
def entry (t : FileTree) (path : String) : Except SystemError Location :=
  match (steps path.toList).getLast? with
  | none => .error (.os .entryExists)
  | some name => do
    match ← t.walk maxLinks (start t.home path.toList) (steps path.toList).dropLast with
    | .taken loc .directory => return loc ++ [name]
    | .taken _ _ => throw (.os .notDirectory)
    | .vacant _ => throw .noEntry

/-- Makes a symbolic link that holds the path `target`. -/
def link (t : FileTree) (path target : String) : Except SystemError FileTree := do
  let t := t.withParents path
  let loc ← t.entry path
  if (t.node? loc).isSome then throw (.os .entryExists)
  return t.place loc (.link target.toList)

/-- Removes what stands at a path, with everything below it; a link is removed
    itself. The contents stay with those who opened them. -/
def remove (t : FileTree) (path : String) : Except SystemError FileTree := do
  let loc ← t.entry path
  if (t.node? loc).isNone then throw .noEntry
  return { t with nodes := t.nodes.filter fun entry => !loc.isPrefixOf entry.1 }

end FileTree

end FileServer
