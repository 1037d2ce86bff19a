import FileServer.Connection
import FileServer.Transfer.Overlapped

/-!
# Answering a request

Once a request head is there, one of two responses is prepared: the document that the
path names, or the not-found page, which may be missing and is then empty. The header
announces the length that the file has at that moment. The body goes straight from the
file to the socket, except that of a dynamic document, which is moved in chunks through
the engine: a read that fills the chunk and a write of just those bytes, both awaited.
-/

namespace FileServer.Session

variable {S : Type}

/-- Gives up on the request: nothing is found. -/
def refuse (s : Session S) : Session S := s.enter .sendingNotFound

/-- Opens the document that a path names, if it names one. -/
def openDocument (site : Site) (s : Session S) (path : String) : Option FileId × Session S :=
  match s.connection.resource with
  | .unserved => (none, s)
  | _ =>
    match Folders.resolve site.settings.documentRoot path with
    | none => (none, s)
    | some file =>
      match site.tree.openRegular file with
      | .ok id => (some id, s)
      | .error e =>
        (none, s.note .debug "cannot open resource" [("path", file), ("error", e.message)])

/-- Looks at a request that consists of one head and nothing else. -/
def serve (site : Site) (s : Session S) (head : RequestHead) : Session S :=
  let resource := site.settings.folders.classify head.path
  let s := (s.update fun c => { c with resource := resource }).note .debug "request received"
    [("method", head.method), ("path", head.path), ("resource", resource.name)]
  let (file, s) := s.openDocument site head.path
  let s := s.update fun c => { c with path := some head.path }
  match file with
  | some id => (s.update fun c => { c with file := some id }).enter .sendingHeader
  | none => s.refuse

/-- Looks at what was received, which has to be a head and nothing else. -/
def processRequest (site : Site) (s : Session S) : Session S :=
  let received := s.connection.received
  match RequestHead.read received with
  | .error e => (s.note .debug "unparsable request" [("error", e.message)]).refuse
  | .ok (head, n) =>
    if n = received.length then s.serve site head
    else
      (s.note .debug "bytes after request head"
        [("consumed", toString n), ("buffered", toString received.length)]).refuse

/-- Prepares the header and announces the body. -/
def startBody (s : Session S) (header : ResponseHeader) : Session S :=
  let s := s.update fun c => { c with
    header := c.header.prepare header
    bodyLength := header.length
    body := ⟨0, header.length⟩ }
  (s.note .debug "sending header"
    [("status", toString header.status.code), ("content_length", toString header.length)]).enter
    .sendingData

/-- The not-found page and its length. -/
def openPage (site : Site) : Except SystemError (FileId × Nat) := do
  let id ← site.tree.openRegular site.settings.notFoundPath
  return (id, ← site.tree.size id)

/-- Prepares the response that nothing was found. -/
def prepareNotFound (site : Site) (s : Session S) : Session S :=
  let s := s.update fun c => { c with status := .notFound, file := none }
  match openPage site with
  | .ok (id, length) =>
    (s.update fun c => { c with file := some id }).startBody ⟨.notFound, length⟩
  | .error e =>
    (s.note .debug "no not-found page"
      [("page", site.settings.notFoundPath), ("error", e.message)]).startBody ⟨.notFound, 0⟩

/-- The length of the open document. -/
def documentLength (site : Site) (s : Session S) : Except SystemError Nat :=
  match s.connection.file with
  | some id => site.tree.size id
  | none => .ok 0

/-- Prepares the response with the document. -/
def prepareHeader (site : Site) (s : Session S) : Handled S :=
  match s.documentLength site with
  | .error e => (.error (.stat e), s)
  | .ok length =>
    (.ok .write, (s.update fun c => { c with status := .ok }).startBody ⟨.ok, length⟩)

/-- Ends a response that is complete. -/
def complete (s : Session S) : Session S := s.enter s.connection.finalPhase

/-- Whether the body goes straight from the file to the socket. -/
def isDirect (c : Connection) : Bool := c.status == .notFound || c.resource == .static

/-- The content of an open file. -/
def contentOf (site : Site) (id : FileId) : Bytes := (site.tree.content? id).getD []

variable [Sink S]

/-- Sends the body straight from the file. -/
def sendBody (site : Site) (s : Session S) (id : FileId) : Handled S :=
  let (result, body, socket) := s.connection.body.run (contentOf site id) s.socket
  let s := { s with socket := socket }.update fun c => { c with body := body }
  match result with
  | .error e => (.error (.send e), s)
  | .ok .done => (.ok .write, s.complete)
  | .ok .blocked => (.ok .write, s)

/-- Sends what follows the header: nothing, the body, or chunks of it later on. -/
def afterHeader (site : Site) (s : Session S) : Handled S :=
  match s.connection.file with
  | none => (.ok .write, s.complete)
  | some id =>
    if s.connection.body.remaining = 0 then (.ok .write, s.complete)
    else if isDirect s.connection then s.sendBody site id
    else (.ok .write, s.enter .movingChunks)

/-- Sends the header, and then what follows it. -/
def sendData (site : Site) (s : Session S) : Handled S :=
  let (result, header, socket) := s.connection.header.flush s.socket
  let s := { s with socket := socket }.update fun c => { c with header := header }
  match result with
  | .error e => (.error (.send e), s)
  | .ok .blocked => (.ok .write, s)
  | .ok .done => s.afterHeader site

/-- Takes over what a request to the engine left behind. -/
def afterRequest {W : Type} (s : Session S) (a : Engine.Answer W) : Session S :=
  { s with engine := a.engine, notes := s.notes ++ a.notes }

/-- Counts a chunk that was moved. -/
def countChunk (s : Session S) (n : Nat) : Session S :=
  let s := s.update fun c => { c with
    body := ⟨c.body.offset + n, c.body.remaining - n⟩
    chunks := c.chunks + 1 }
  let s := s.note .trace "dynamic chunk sent"
    [("chunk", toString s.connection.chunks), ("bytes", toString n),
      ("remaining", toString s.connection.body.remaining)]
  if s.connection.body.remaining = 0 then s.enter .dataSent else s

/-- Writes the first `n` bytes of the chunk to the socket. -/
def writeChunk (s : Session S) (n : Nat) : Handled S :=
  let written := s.engine.writeFrom s.socket (s.connection.chunk.toBytes.take n)
  let s := { s.afterRequest written with socket := written.world }
  match written.result with
  | .error e => (.error (.engine e), s)
  | .ok m => if m = n then (.ok .write, s.countChunk n) else (.error (.short n m), s)

/-- Moves one chunk of the body. -/
def sendChunk (site : Site) (s : Session S) : Handled S :=
  match s.connection.file with
  | none => (.ok .write, s.complete)
  | some id =>
    let body := s.connection.body
    let n := min site.settings.chunkSize body.remaining
    let got := s.engine.readAt site.tree ⟨id, body.offset, n⟩ (s.connection.chunk.widen n)
    let s := (s.afterRequest got).update fun c => { c with chunk := got.world }
    match got.result with
    | .error e => (.error (.engine e), s)
    | .ok m => if m = n then s.writeChunk n else (.error (.short n m), s)

end FileServer.Session
