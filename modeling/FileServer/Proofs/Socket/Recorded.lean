import FileServer.Socket

/-!
# Sockets with a record

`Recorded S` is a socket that behaves as one of the type `S` does and keeps a
record of the bytes it took, in order. What a program puts on a socket is thus a
function of the socket it leaves behind, for every socket: the inner one decides how
much of an offer it takes, when it blocks, and when it fails.
-/

namespace FileServer

/-- The bytes that were taken of those offered. -/
def Sending.part (offered : Bytes) : Sending → Bytes
  | took n => offered.take n
  | _ => []

theorem Sending.part_prefix (offered : Bytes) (r : Sending) : r.part offered <+: offered := by
  cases r with
  | took n => exact List.take_prefix _ _
  | _ => exact List.nil_prefix

/-- A socket and what it has taken. -/
structure Recorded (S : Type) where
  inner : S
  /-- All that was taken, first byte first. -/
  sent : Bytes := []

namespace Recorded

variable {S : Type}

instance [Sink S] : Sink (Recorded S) where
  send s bs :=
    let (r, inner) := Sink.send s.inner bs
    (r, ⟨inner, s.sent ++ r.part bs⟩)
  fault s := Sink.fault s.inner
  signals s := Sink.signals s.inner
  send_took_le s := Sink.send_took_le s.inner
  send_signals s := Sink.send_signals s.inner

instance [Socket S] : Socket (Recorded S) where
  receive s n :=
    let (r, inner) := Socket.receive s.inner n
    (r, { s with inner := inner })
  receive_came_le s := Socket.receive_came_le s.inner
  receive_signals s := Socket.receive_signals s.inner

/-- What is taken is put down. -/
theorem sent_send [Sink S] {s s' : Recorded S} {bs : Bytes} {r : Sending}
    (h : Sink.send s bs = (r, s')) : s'.sent = s.sent ++ r.part bs := by
  obtain ⟨rfl, rfl⟩ := Prod.mk.inj h
  rfl

/-- Reading puts nothing down. -/
theorem sent_receive [Socket S] (s : Recorded S) (n : Nat) :
    (Socket.receive s n).2.sent = s.sent := rfl

end Recorded

end FileServer
