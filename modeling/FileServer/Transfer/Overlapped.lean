import FileServer.FileTree
import FileServer.Socket
import FileServer.Transfer.Engine
import FileServer.Transfer.FileBody

/-!
# Overlapped reads and writes

What the system makes of a request to read a file or to write to a socket, and the
two calls of the engine that the server needs: `Engine.readAt` fills a buffer from a
file, `Engine.writeFrom` sends bytes to a socket. Each request is looked at when it
is handed in (the descriptor, then the range) and carried out at once.
-/

namespace FileServer

/-- A request for bytes of a file. -/
structure FileRange where
  file : FileId
  offset : Nat
  length : Nat

/-- Reads a range of a file into the buffer that the request came with. The read is short where
    the file ends in the range, and where the range is longer than one request can move. -/
def readFile (t : FileTree) (r : FileRange) (buffer : LazyBytes) : Verdict LazyBytes :=
  match t.stored? r.file with
  | none => .refused .badDescriptor
  | some content =>
    if FileBody.OutOfRange r.offset r.length then .refused .invalid
    else
      let part := content.slice r.offset (FileBody.granted r.length)
      .finished (.ok part.length) (buffer.overwrite part)

/-- Writes bytes to a socket, as many as it takes at once. -/
def writeSocket {S : Type} [Sink S] (bs : Bytes) (s : S) : Verdict S :=
  match Sink.fault s with
  | some e => .refused e
  | none =>
    let (outcome, s) := Sink.send s (bs.take FileBody.transferLimit)
    .finished outcome.transferred s

/-- Reads `length` bytes of a file at `offset` into a buffer. -/
def Engine.readAt (e : Engine) (t : FileTree) (r : FileRange) (buffer : LazyBytes) :
    Answer LazyBytes :=
  e.runOne (readFile t) buffer r r.length

/-- Writes bytes to a socket. -/
def Engine.writeFrom {S : Type} [Sink S] (e : Engine) (s : S) (bs : Bytes) : Answer S :=
  e.runOne writeSocket s bs bs.length

end FileServer
