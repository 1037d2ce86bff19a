import FileServer.FileTree
import FileServer.Http.Head
import FileServer.Http.ResponseHeader
import FileServer.Note
import FileServer.Resource
import FileServer.Settings
import FileServer.Socket
import FileServer.Transfer.Engine
import FileServer.Transfer.FileBody
import FileServer.Transfer.SendBuffer

/-!
# Connections

One client and everything needed to answer it. A connection passes through phases: it
receives a request head, looks at it, prepares a header, sends the header and then the
body, and ends. What happens in each phase is said in `FileServer.Connection.Receive`
and `FileServer.Connection.Respond`; which phases the socket's readiness moves it through
is said in `FileServer.Connection.Handler`.

A `Session` puts the connection together with what its handlers act on: its socket, the
engine that all connections share, and the notes taken. What they only consult, the
settings and the file tree, is a `Site`.
-/

namespace FileServer

/-- How far a connection has come. -/
inductive Phase
  /-- Accepted, nothing read yet. -/
  | initial
  /-- Collecting the request head. -/
  | receiving
  /-- The head is there and has not been looked at. -/
  | requestReceived
  /-- About to prepare the header of a response that nothing was found. -/
  | sendingNotFound
  /-- About to prepare the header of a response with a document. -/
  | sendingHeader
  /-- Sending the header, and then the body if it goes straight from the file. -/
  | sendingData
  /-- Sending the body through the engine, a chunk at a time. -/
  | movingChunks
  /-- A document was sent completely. -/
  | dataSent
  /-- An empty document was sent, that is, its header. -/
  | headerSent
  /-- The response that nothing was found was sent completely. -/
  | notFoundSent
  | closed
  deriving DecidableEq, Repr

namespace Phase

/-- The name of the phase, as notes give it. -/
def name : Phase → String
  | initial => "Initial"
  | receiving => "Receiving"
  | requestReceived => "RequestReceived"
  | sendingNotFound => "SendingNotFound"
  | sendingHeader => "SendingHeader"
  | sendingData => "SendingData"
  | movingChunks => "AsyncOngoing"
  | dataSent => "DataSent"
  | headerSent => "HeaderSent"
  | notFoundSent => "NotFoundSent"
  | closed => "Closed"

/-- Whether the response is complete, so that only closing is left. -/
def isFinal : Phase → Bool
  | dataSent | headerSent | notFoundSent | closed => true
  | _ => false

end Phase

/-- What a handler wants to happen next. -/
inductive Next
  /-- Wait until something can be read. -/
  | read
  /-- Wait until something can be written. -/
  | write
  /-- Close the connection. -/
  | close
  deriving DecidableEq, Repr

/-- What can go wrong on one connection. -/
inductive ConnectionFailure
  /-- The client closed before its request was complete. -/
  | peerClosed
  /-- Reading the request failed. -/
  | receive (error : SystemError)
  /-- The length of the document could not be found out. -/
  | stat (error : SystemError)
  /-- Sending the header or the body failed. -/
  | send (error : SystemError)
  /-- A request to the engine failed. -/
  | engine (error : SystemError)
  /-- The engine moved fewer bytes than it was asked for. -/
  | short (expected actual : Nat)
  deriving DecidableEq, Repr

namespace ConnectionFailure

/-- The wording of the failure. -/
def message : ConnectionFailure → String
  | peerClosed => "peer closed connection"
  | receive e => "receive failed: " ++ e.message
  | stat e => "cannot stat backing file: " ++ e.message
  | send e => "send failed: " ++ e.message
  | engine e => "async io failed: " ++ e.message
  | short expected actual => s!"short transfer: expected {expected} bytes, got {actual}"

/-- What lies behind the failure, in words. -/
def causes : ConnectionFailure → List String
  | receive e | stat e | send e | engine e => [e.message]
  | _ => []

end ConnectionFailure

/-- One client and everything needed to answer it. -/
structure Connection where
  /-- What the connection is known by. -/
  token : UInt64
  /-- The address of the client. -/
  peer : String
  phase : Phase := .initial
  /-- What was received. -/
  received : Bytes := []
  /-- The header on its way out. -/
  header : SendBuffer := {}
  /-- The path that was asked for. -/
  path : Option String := none
  resource : Resource := .unserved
  status : Status := .ok
  /-- The open file that holds the body. -/
  file : Option FileId := none
  /-- How far the body has come. -/
  body : FileBody := ⟨0, 0⟩
  /-- The announced length of the body. -/
  bodyLength : Nat := 0
  /-- The buffer that chunks pass through. -/
  chunk : LazyBytes := .ofBytes []
  /-- How many chunks were moved. -/
  chunks : Nat := 0
  deriving Repr

namespace Connection

/-- The phase that a complete response ends in. -/
def finalPhase (c : Connection) : Phase :=
  match c.status with
  | .notFound => .notFoundSent
  | .ok => if c.bodyLength = 0 then .headerSent else .dataSent

end Connection

/-- What handlers consult and leave as it is. -/
structure Site where
  settings : Settings
  tree : FileTree

/-- A connection and what its handlers act on. -/
structure Session (S : Type) where
  connection : Connection
  socket : S
  engine : Engine
  /-- The notes taken, first one first. -/
  notes : List Note := []

/-- How a handler ended, and the session it leaves. -/
abbrev Handled (S : Type) := Except ConnectionFailure Next × Session S

namespace Session

variable {S : Type}

/-- Takes a note, the first detail of which is the connection. -/
def note (s : Session S) (level : Level) (text : String) (details : List (String × String)) :
    Session S :=
  { s with notes :=
      s.notes ++ [⟨level, text, ("token", toString s.connection.token) :: details⟩] }

/-- Changes the connection. -/
def update (s : Session S) (f : Connection → Connection) : Session S :=
  { s with connection := f s.connection }

/-- Goes over to another phase. -/
def enter (s : Session S) (phase : Phase) : Session S :=
  (s.note .trace "state transition" [("from", s.connection.phase.name), ("to", phase.name)]).update
    fun c => { c with phase := phase }

/-! ### What these leave alone -/

@[simp] theorem note_connection (s : Session S) (level : Level) (text : String)
    (details : List (String × String)) : (s.note level text details).connection = s.connection := rfl

@[simp] theorem note_socket (s : Session S) (level : Level) (text : String)
    (details : List (String × String)) : (s.note level text details).socket = s.socket := rfl

@[simp] theorem note_engine (s : Session S) (level : Level) (text : String)
    (details : List (String × String)) : (s.note level text details).engine = s.engine := rfl

@[simp] theorem update_connection (s : Session S) (f : Connection → Connection) :
    (s.update f).connection = f s.connection := rfl

@[simp] theorem update_socket (s : Session S) (f : Connection → Connection) :
    (s.update f).socket = s.socket := rfl

@[simp] theorem update_engine (s : Session S) (f : Connection → Connection) :
    (s.update f).engine = s.engine := rfl

@[simp] theorem enter_connection (s : Session S) (phase : Phase) :
    (s.enter phase).connection = { s.connection with phase := phase } := rfl

@[simp] theorem enter_socket (s : Session S) (phase : Phase) :
    (s.enter phase).socket = s.socket := rfl

@[simp] theorem enter_engine (s : Session S) (phase : Phase) :
    (s.enter phase).engine = s.engine := rfl

end Session

end FileServer
