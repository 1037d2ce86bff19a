import FileServer.SystemError

/-!
# Waiting for readiness

A poller watches descriptors and reports which of them are ready. Each is watched under a
token, which comes back with every event, and with one interest: in being read or in being
written. A broken connection is reported whatever the interest. Reports are by level, that
is, what stays ready is reported every time, and at most `Poller.batch` of them are given
at once.
-/

namespace FileServer

/-- What a descriptor is watched for. -/
inductive Interest
  | read
  | write
  deriving DecidableEq, Repr

/-- What a descriptor is ready for. -/
structure Ready where
  /-- Bytes or their end are there. -/
  readable : Bool
  /-- Bytes will be taken. -/
  writable : Bool
  /-- The other side is gone. -/
  hangup : Bool
  deriving DecidableEq, Repr

/-- The report on one watched descriptor. -/
structure ReadyEvent where
  /-- What it is watched under. -/
  token : UInt64
  readable : Bool
  writable : Bool
  hangup : Bool
  deriving DecidableEq, Repr

/-- How a descriptor is watched. -/
structure Watch where
  token : UInt64
  interest : Interest
  deriving DecidableEq, Repr

/-- The descriptors that are watched, in the order in which that began. -/
structure Poller (D : Type) where
  watches : List (D × Watch) := []
  deriving Repr

namespace Poller

variable {D : Type} [DecidableEq D]

/-- How many events are given at once. -/
def batch : Nat := 64

/-- How a descriptor is watched, if it is. -/
def watch? (p : Poller D) (d : D) : Option Watch := p.watches.lookup d

/-- Begins to watch a descriptor, unless the system refuses or it is watched already. -/
def register (p : Poller D) (refusal : Option SystemError) (d : D) (w : Watch) :
    Except SystemError (Poller D) :=
  match refusal with
  | some e => .error e
  | none =>
    if (p.watch? d).isSome then .error (.os .entryExists)
    else .ok { p with watches := p.watches ++ [(d, w)] }

/-- Watches a descriptor in another way, unless the system refuses or it is not watched. -/
def rearm (p : Poller D) (refusal : Option SystemError) (d : D) (w : Watch) :
    Except SystemError (Poller D) :=
  match refusal with
  | some e => .error e
  | none =>
    if (p.watch? d).isNone then .error .noEntry
    else .ok { p with watches := p.watches.map fun e => if e.1 = d then (d, w) else e }

/-- No longer watches a descriptor, whether or not it did. -/
def forget (p : Poller D) (d : D) : Poller D :=
  { p with watches := p.watches.filter fun e => e.1 ≠ d }

/-- Stops watching a descriptor, unless the system refuses or it is not watched. -/
def deregister (p : Poller D) (refusal : Option SystemError) (d : D) :
    Except SystemError (Poller D) :=
  match refusal with
  | some e => .error e
  | none => if (p.watch? d).isNone then .error .noEntry else .ok (p.forget d)

/-- The event of a descriptor that is watched in a way, if there is one. -/
def eventOf (w : Watch) (r : Ready) : Option ReadyEvent :=
  let readable := w.interest == .read && r.readable
  let writable := w.interest == .write && r.writable
  if readable || writable || r.hangup then some ⟨w.token, readable, writable, r.hangup⟩ else none

/-- The events there are, those of the descriptors watched longest first. -/
def poll (p : Poller D) (ready : D → Ready) : List ReadyEvent :=
  (p.watches.filterMap fun (d, w) => eventOf w (ready d)).take batch

end Poller

end FileServer
