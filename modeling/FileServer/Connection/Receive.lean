import FileServer.Connection

/-!
# Receiving a request

The head of a request is collected as it comes in, however it is cut up. Receiving ends
when the blank line that ends a head has come or when the largest size is reached, and
waits when nothing more is there. After each read only what is new is searched, with the
last three bytes before it, because a blank line may have begun there.
-/

namespace FileServer.Session

variable {S : Type} [Socket S]

/-- How many bytes are asked for at a time. -/
def readSize : Nat := 1024

/-- How many bytes of a blank line can lie in front of its last one. -/
def overlap : Nat := 3

/-- The session with bytes behind those received. -/
def append (s : Session S) (socket : S) (bytes : Bytes) : Session S :=
  ({ s with socket := socket }.update fun c => { c with received := c.received ++ bytes }).note
    .trace "received" [("bytes", toString bytes.length)]

/-- Receives until the head is complete, the size is reached, or nothing more is there. -/
def receive (limit : Nat) (s : Session S) : Handled S :=
  let before := s.connection.received.length
  if _hroom : limit ≤ before then
    (.ok .write, (s.note .debug "request head hit size limit" [("limit", toString limit)]).enter
      .requestReceived)
  else
    match _hr : Socket.receive s.socket (min (limit - before) readSize) with
    | (.came [], socket) => (.error .peerClosed, { s with socket := socket })
    | (.came (b :: bs), socket) =>
      let s := s.append socket (b :: bs)
      if (findBlankLine? (s.connection.received.drop (before - overlap))).isSome then
        (.ok .write, s.enter .requestReceived)
      else receive limit s
    | (.interrupted, socket) => receive limit { s with socket := socket }
    | (.wouldBlock, socket) => (.ok .read, { s with socket := socket })
    | (.failed e, socket) => (.error (.receive e), { s with socket := socket })
termination_by (limit - s.connection.received.length, Sink.signals s.socket)
decreasing_by
  · apply Prod.Lex.left
    simp only [append, note, update, List.length_append, List.length_cons]
    omega
  · apply Prod.Lex.right
    have := Socket.receive_signals s.socket (min (limit - before) readSize) (by rw [_hr])
    rwa [_hr] at this

end FileServer.Session
