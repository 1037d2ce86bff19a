import FileServer.FileTree
import FileServer.Socket.Duplex
import FileServer.Transfer.Overlapped

/-!
# Open descriptors of every kind

Beside the server's own two, the engine takes any request on any descriptor: a file
opened for reading, for writing or for both, a directory, or one end of a
connection. A `Bench` holds such descriptors by name, over a file tree, with a row
of buffers for the reads. `Bench.carry` is the system's verdict on a request: the
descriptor has to be open and of the right mode, the range has to end below the
largest position, and a connection has no positions.
-/

namespace FileServer

/-- What a descriptor may be used for. -/
structure Access where
  read : Bool
  write : Bool
  deriving DecidableEq, Repr

/-- What a descriptor leads to. -/
inductive Handle
  | file (id : FileId) (access : Access)
  | directory
  | stream (ends : Duplex)
  deriving Repr

/-- Open descriptors over a file tree, and buffers. -/
structure Bench where
  tree : FileTree
  handles : List (String × Handle) := []
  buffers : List Bytes := []

/-- A request on a descriptor. -/
inductive Transfer
  /-- Reads into the buffer of that index. -/
  | read (handle : String) (offset length buffer : Nat)
  | write (handle : String) (offset : Nat) (bytes : Bytes)
  deriving Repr

/-- How many bytes a request is about. -/
def Transfer.length : Transfer → Nat
  | read _ _ length _ => length
  | write _ _ bytes => bytes.length

namespace Bench

/-- What a descriptor leads to. -/
def handle? (b : Bench) (name : String) : Option Handle := b.handles.lookup name

/-- Gives a descriptor a meaning. -/
def setHandle (b : Bench) (name : String) (h : Handle) : Bench :=
  { b with handles := FileTree.put name h b.handles }

/-- Opens a path; a file that is missing is created for a writer. -/
def openPath (b : Bench) (name path : String) (access : Access) : Except SystemError Bench :=
  match b.tree.locate path with
  | .error e => .error e
  | .ok (.taken _ (.file id)) => .ok (b.setHandle name (.file id access))
  | .ok (.taken _ _) =>
    if access.write then .error (.os .isDirectory) else .ok (b.setHandle name .directory)
  | .ok (.vacant loc) =>
    if access.write then
      let id := b.tree.fresh
      .ok ({ b with tree := b.tree.create loc (.ofBytes []) }.setHandle name (.file id access))
    else .error .noEntry

/-- Adds a buffer of the bytes; its index is the number of those before it. -/
def addBuffer (b : Bench) (buffer : Bytes) : Nat × Bench :=
  (b.buffers.length, { b with buffers := b.buffers ++ [buffer] })

/-- Puts bytes at the start of a buffer. -/
def fill (b : Bench) (index : Nat) (part : Bytes) : Bench :=
  { b with buffers := b.buffers.modify index fun buffer => part ++ buffer.drop part.length }

/-- The bytes that can still be written at a position, unless no file reaches that far. -/
def fitting? (offset : Nat) (part : Bytes) : Option Bytes :=
  if part = [] ∨ offset < FileTree.maxSize then some (part.take (FileTree.maxSize - offset))
  else none

/-- Bytes in place of those at a position, behind zeros where the content ends
    before it; writing nothing changes nothing. -/
def patch (content : Bytes) (offset : Nat) (part : Bytes) : Bytes :=
  if part = [] then content
  else content.take offset ++ List.replicate (offset - content.length) 0 ++ part ++
    content.drop (offset + part.length)

/-- The verdict on a read. -/
def carryRead (b : Bench) (name : String) (offset length buffer : Nat) : Verdict Bench :=
  match b.handle? name with
  | none => .refused .badDescriptor
  | some (.file id access) =>
    if !access.read then .refused .badDescriptor
    else match readFile b.tree ⟨id, offset, length⟩ (.ofBytes []) with
      | .refused e => .refused e
      | .finished result part => .finished result (b.fill buffer part.toBytes)
  | some .directory => .refused .invalid
  | some (.stream d) =>
    if FileBody.OutOfRange offset length then .refused .invalid
    else if offset ≠ 0 then .finished (.error (.os .notSeekable)) b
    else if length = 0 then .finished (.ok 0) b
    else
      let (outcome, d) := d.receive (FileBody.granted length)
      let b := b.setHandle name (.stream d)
      match outcome with
      | .came bs => .finished (.ok bs.length) (b.fill buffer bs)
      | .failed e => .finished (.error e) b
      | .interrupted | .wouldBlock => .finished (.error .again) b

/-- The verdict on a write. -/
def carryWrite (b : Bench) (name : String) (offset : Nat) (bytes : Bytes) : Verdict Bench :=
  match b.handle? name with
  | none => .refused .badDescriptor
  | some .directory => .refused .badDescriptor
  | some (.file id access) =>
    if !access.write then .refused .badDescriptor
    else if FileBody.OutOfRange offset bytes.length then .refused .invalid
    else match b.tree.content? id, fitting? offset (bytes.take FileBody.transferLimit) with
      | none, _ => .refused .badDescriptor
      | some _, none => .finished (.error (.os .fileTooLarge)) b
      | some content, some part =>
        .finished (.ok part.length) { b with tree := b.tree.setContent id (patch content offset part) }
  | some (.stream d) =>
    if FileBody.OutOfRange offset bytes.length then .refused .invalid
    else if offset ≠ 0 then .finished (.error (.os .notSeekable)) b
    else match writeSocket bytes d with
      | .refused e => .refused e
      | .finished result d => .finished result (b.setHandle name (.stream d))

/-- The verdict on a request. -/
def carry : Transfer → Bench → Verdict Bench
  | .read name offset length buffer, b => b.carryRead name offset length buffer
  | .write name offset bytes, b => b.carryWrite name offset bytes

/-- Reads through the engine into the buffer of that index. -/
def readAt (b : Bench) (e : Engine) (name : String) (offset length buffer : Nat) :
    Engine.Answer Bench :=
  e.runOne carry b (.read name offset length buffer) length

/-- Writes through the engine, at the start of a file. -/
def writeFrom (b : Bench) (e : Engine) (name : String) (bytes : Bytes) : Engine.Answer Bench :=
  e.runOne carry b (.write name 0 bytes) bytes.length

end Bench

end FileServer
