import FileServer.Socket

/-!
# A pair of pipes

A connection as two queues of bytes: what the peer has sent and nobody has read,
and what was sent to the peer and it has not read. The server's end is a
`Socket`; the other functions are the peer's acts.

The way to the peer takes bytes in whole blocks as long as it holds less than
`Duplex.capacity`, so it always accepts something when it is not full. When the
peer has closed its end, whatever lies in the way to it is lost and every
further attempt to send fails; if something was lost, one request for bytes fails
too, once all that the peer has sent is read. A socket that was never connected
neither gives nor takes.
-/

namespace FileServer

/-- The two directions of a connection. -/
structure Duplex where
  /-- Whether there is a peer at all. -/
  connected : Bool := true
  /-- Sent by the peer and not yet read. -/
  inbound : Bytes := []
  /-- The peer will send no more. -/
  ended : Bool := false
  /-- Sent to the peer and not yet read by it. -/
  outbound : Bytes := []
  /-- The peer has closed its end. -/
  closed : Bool := false
  /-- Something was lost when it did, which has not been reported. -/
  reset : Bool := false
  deriving Repr

namespace Duplex

/-- What the way to the peer may hold before it takes no more. -/
def capacity : Nat := 212992

/-- What the way to the peer takes at a time. -/
def block : Nat := 65536

/-- Whether the way to the peer takes no more at present. -/
def isFull (d : Duplex) : Bool := d.outbound.length ≥ capacity

/-- How many bytes the way to the peer takes: whole blocks until it is full. -/
def room (d : Duplex) : Nat :=
  (capacity - d.outbound.length + (block - 1)) / block * block

/-- The server offers bytes. -/
def send (d : Duplex) (bs : Bytes) : Sending × Duplex :=
  if !d.connected || d.closed then (.failed .brokenPipe, d)
  else if bs = [] then (.took 0, d)
  else if d.isFull then (.wouldBlock, d)
  else
    let taken := bs.take d.room
    (.took taken.length, { d with outbound := d.outbound ++ taken })

/-- The server asks for at most so many bytes. -/
def receive (d : Duplex) (n : Nat) : Receiving × Duplex :=
  if !d.connected then (.failed (.os .notConnected), d)
  else if d.inbound = [] && d.reset then (.failed (.os .connectionReset), { d with reset := false })
  else if d.inbound = [] && !d.ended then (.wouldBlock, d)
  else (.came (d.inbound.take n), { d with inbound := d.inbound.drop n })

instance : Socket Duplex where
  send := send
  fault _ := none
  signals _ := 0
  send_took_le d bs n := by
    simp only [send]
    split
    · simp
    · split
      · simp only [Sending.took.injEq]
        omega
      · split
        · simp
        · simp only [Sending.took.injEq, List.length_take]
          omega
  send_signals d bs := by
    simp only [send]
    repeat' split
    all_goals simp
  receive := receive
  receive_came_le d n bs := by
    simp only [receive]
    split
    · simp
    · split
      · simp
      · split
        · simp
        · rintro ⟨⟩
          simp only [List.length_take]
          omega
  receive_signals d n := by
    simp only [receive]
    repeat' split
    all_goals simp

/-- The peer sends bytes; nothing arrives once its end is closed or shut. -/
def peerSend (d : Duplex) (bs : Bytes) : Duplex :=
  if d.ended then d else { d with inbound := d.inbound ++ bs }

/-- The peer will send no more. -/
def peerShut (d : Duplex) : Duplex := { d with ended := true }

/-- The peer closes its end. -/
def peerClose (d : Duplex) : Duplex :=
  { d with ended := true, closed := true, reset := d.reset || !d.outbound.isEmpty, outbound := [] }

/-- The peer reads all that has been sent to it. -/
def peerTake (d : Duplex) : Bytes × Duplex := (d.outbound, { d with outbound := [] })

end Duplex

end FileServer
