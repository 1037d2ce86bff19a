import FileServer.Http.ResponseHeader
import FileServer.Socket

/-!
# Sending a header

A header is prepared once and then pushed out as far as the sink lets it go.
`SendBuffer.flush` offers what has not been taken yet, again and again, until all
of it is out, the sink wants to be tried later, or something fails; what was taken
stays counted, so the next call goes on behind it.
-/

namespace FileServer

/-- How far a transfer came. -/
inductive Progress
  /-- All of it is out. -/
  | done
  /-- The sink is full; the rest has to wait. -/
  | blocked
  deriving DecidableEq, Repr

/-- Bytes on their way out. -/
structure SendBuffer where
  content : Bytes := []
  /-- How many of them have been taken. -/
  written : Nat := 0
  deriving Repr

namespace SendBuffer

/-- A new header takes the place of whatever the buffer held. -/
def prepare (_ : SendBuffer) (header : ResponseHeader) : SendBuffer := ⟨header.appendTo [], 0⟩

/-- How many bytes the buffer holds, taken or not. -/
def length (b : SendBuffer) : Nat := b.content.length

/-- The bytes that have not been taken. -/
def rest (b : SendBuffer) : Bytes := b.content.drop b.written

/-- How many bytes have not been taken. -/
def remaining (b : SendBuffer) : Nat := b.content.length - b.written

/-- The failure of a sink that takes nothing though it is offered something. -/
def tookNothing : SystemError := .own .writeZero "connection closed while writing"

/-- Pushes out as much as the sink takes. -/
def flush {S : Type} [Sink S] (b : SendBuffer) (s : S) :
    Except SystemError Progress × SendBuffer × S :=
  if _h : b.written < b.content.length then
    match _hs : Sink.send s b.rest with
    | (.took 0, s') => (.error tookNothing, b, s')
    | (.took (n + 1), s') => flush { b with written := b.written + (n + 1) } s'
    | (.interrupted, s') => flush b s'
    | (.wouldBlock, s') => (.ok .blocked, b, s')
    | (.failed e, s') => (.error e, b, s')
  else (.ok .done, b, s)
termination_by (b.content.length - b.written, Sink.signals s)
decreasing_by
  · apply Prod.Lex.left
    omega
  · apply Prod.Lex.right
    have := Sink.send_signals s b.rest (by rw [_hs])
    rwa [_hs] at this

end SendBuffer

end FileServer
