import FileServer.Connection.Receive
import FileServer.Connection.Respond

/-!
# What readiness does to a connection

A connection is told that its socket can be read or written, and answers what it wants to
wait for next. Readability moves it through the first two phases, writability through all
others. Whatever fails ends in the wish to be closed, with a note of the failure.
-/

namespace FileServer.Session

variable {S : Type}

/-- The wish that follows from how a handler ended. -/
def finish (handled : Handled S) : Next × Session S :=
  let (result, s) := handled
  let c := s.connection
  match result with
  | .ok next => (next, s)
  | .error .peerClosed =>
    (.close, s.note .debug "peer closed early" [("peer", c.peer), ("state", c.phase.name)])
  | .error e =>
    (.close, s.note .warn "connection failed"
      [("peer", c.peer), ("state", c.phase.name), ("error", e.message)])

/-- What readability does, before a failure is turned into a wish. Once the request is
    there it does nothing, but a connection that broke off is given up. -/
def readable [Socket S] (site : Site) (hangup : Bool) (s : Session S) : Handled S :=
  match s.connection.phase with
  | .initial => (s.enter .receiving).receive site.settings.maxRequestSize
  | .receiving => s.receive site.settings.maxRequestSize
  | .closed => (.ok .close, s)
  | phase =>
    if hangup then
      (.ok .close, s.note .debug "peer hung up mid-response" [("state", phase.name)])
    else (.ok .write, s)

/-- What writability does, before a failure is turned into a wish. -/
def writable [Sink S] (site : Site) (s : Session S) : Handled S :=
  match s.connection.phase with
  | .initial | .receiving => (.ok .read, s)
  | .requestReceived => (.ok .write, s.processRequest site)
  | .sendingNotFound => (.ok .write, s.prepareNotFound site)
  | .sendingHeader => s.prepareHeader site
  | .sendingData => s.sendData site
  | .movingChunks => s.sendChunk site
  | .dataSent | .headerSent | .notFoundSent | .closed => (.ok .close, s)

/-- The socket can be read, or the connection broke off. -/
def onReadable [Socket S] (site : Site) (hangup : Bool) (s : Session S) : Next × Session S :=
  finish (s.readable site hangup)

/-- The socket can be written. -/
def onWritable [Sink S] (site : Site) (s : Session S) : Next × Session S :=
  finish (s.writable site)

/-- Marks the connection as closed. -/
def close (s : Session S) : Session S :=
  let c := s.connection
  (s.note .debug "closing connection"
    [("peer", c.peer), ("state", c.phase.name), ("status", toString c.status.code),
      ("sent", toString c.body.offset), ("announced", toString c.bodyLength)]).update
    fun c => { c with phase := .closed }

end FileServer.Session
