import FileServer.Bytes
import FileServer.SystemError

/-!
# Sockets

A socket takes bytes and gives bytes, as far as it likes: of what it is offered it
may take any part, it may ask to be tried again later, it may be cut short by a
signal, and it may fail. The classes below say just that. `Sink` is the half that
takes, `Socket` both halves.

Two laws keep a caller's loop finite and honest: a socket takes no more than it is
offered and gives no more than it is asked for, and it is cut short only finitely
many times in a row, which `signals` counts down.
-/

namespace FileServer

/-- What became of bytes offered to a socket. -/
inductive Sending
  /-- So many of them were taken, the first ones. -/
  | took (count : Nat)
  /-- None fits at present. -/
  | wouldBlock
  /-- A signal came in between and nothing was taken. -/
  | interrupted
  | failed (error : SystemError)
  deriving DecidableEq, Repr

/-- What became of a request for bytes. -/
inductive Receiving
  /-- These came; none means that no more will ever come. -/
  | came (bytes : Bytes)
  /-- None is there at present. -/
  | wouldBlock
  /-- A signal came in between and nothing was given. -/
  | interrupted
  | failed (error : SystemError)
  deriving DecidableEq, Repr

/-- Something that takes bytes. -/
class Sink (S : Type) where
  /-- Offers bytes. -/
  send : S → Bytes → Sending × S
  /-- Why the system refuses to look at the sink at all, if it does. -/
  fault : S → Option SystemError
  /-- How many times in a row the sink can still be cut short. -/
  signals : S → Nat
  send_took_le : ∀ s bs n, (send s bs).1 = .took n → n ≤ bs.length
  send_signals : ∀ s bs, (send s bs).1 = .interrupted → signals (send s bs).2 < signals s

/-- Something that takes bytes and gives bytes. -/
class Socket (S : Type) extends Sink S where
  /-- Asks for at most so many bytes. -/
  receive : S → Nat → Receiving × S
  receive_came_le : ∀ s n bs, (receive s n).1 = .came bs → bs.length ≤ n
  receive_signals : ∀ s n, (receive s n).1 = .interrupted → signals (receive s n).2 < signals s

namespace Sending

/-- The outcome as one number or one failure, the way a finished transfer
    reports it. -/
def transferred : Sending → Except SystemError Nat
  | took n => .ok n
  | wouldBlock => .error .again
  | interrupted => .error (.os .interrupted)
  | failed e => .error e

end Sending

/-- A descriptor that may name nothing. -/
instance {S : Type} [Sink S] : Sink (Option S) where
  send
    | some s, bs => ((Sink.send s bs).1, some (Sink.send s bs).2)
    | none, _ => (.failed .badDescriptor, none)
  fault
    | some s => Sink.fault s
    | none => some .badDescriptor
  signals
    | some s => Sink.signals s
    | none => 0
  send_took_le
    | some s, bs, n, h => Sink.send_took_le s bs n h
  send_signals
    | some s, bs, h => Sink.send_signals s bs h

end FileServer
