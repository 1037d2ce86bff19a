import FileServer.Ipv4
import FileServer.SystemError

/-!
# Listening for connections

Addresses and ports are taken by those who listen. One who asks for port zero is given a
port that nobody has; one who asks for a port that another has on the same address, or on
all addresses, is refused.
-/

namespace FileServer

/-- Where somebody listens. -/
structure Endpoint where
  ip : Ipv4
  port : Nat
  deriving DecidableEq, Repr

/-- The endpoint as it is shown. -/
def Endpoint.text (e : Endpoint) : String := s!"{e.ip.text}:{e.port}"

/-- The endpoints that are taken. -/
structure Network where
  taken : List Endpoint := []
  /-- The port that the next one who does not care is given. -/
  nextPort : Nat := 32768
  deriving Repr

namespace Network

/-- All addresses of the machine. -/
def anyAddress : Ipv4 := ⟨0, 0, 0, 0⟩

/-- Whether two endpoints cannot both be listened at. -/
def clashes (a b : Endpoint) : Bool :=
  a.port == b.port && (a.ip == b.ip || a.ip == anyAddress || b.ip == anyAddress)

/-- Listens at an address and a port. However many connections may wait, it is the
    system that bounds them. -/
def listen (n : Network) (ip : Ipv4) (port : Nat) (_backlog : Int) :
    Except SystemError (Endpoint × Network) :=
  if port = 0 then
    let e : Endpoint := ⟨ip, n.nextPort⟩
    .ok (e, ⟨e :: n.taken, n.nextPort + 1⟩)
  else
    let e : Endpoint := ⟨ip, port⟩
    if n.taken.any (clashes e) then .error (.os .addressInUse)
    else .ok (e, { n with taken := e :: n.taken })

end Network

end FileServer
