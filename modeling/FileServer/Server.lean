import FileServer.Connection.Handler
import FileServer.Network
import FileServer.Readiness

/-!
# The server

A server owns the place where it listens, a poller, an engine, and a registry of the
connections it has accepted and not yet closed. Every connection is known by a token, under
which its socket is watched; the place where the server listens is watched under token
zero. How connections come in is said in `FileServer.Server.Accept`, and what readiness does
to them in `FileServer.Server.Dispatch`.

`Server.bind` starts a server and fails with a `StartupError`.
-/

namespace FileServer

/-- Why a server cannot start or go on. -/
inductive StartupError
  /-- The settings make no sense. -/
  | settings (error : SettingsError)
  /-- The address cannot be listened at. -/
  | listen (error : SystemError)
  /-- No poller can be made. -/
  | poller (error : SystemError)
  /-- No engine can be made. -/
  | engine (error : SystemError)
  /-- Waiting for events failed. -/
  | eventLoop (error : SystemError)
  deriving DecidableEq, Repr

namespace StartupError

/-- The wording of the failure. -/
def message : StartupError → String
  | settings e => "invalid configuration: " ++ e.message
  | listen e => "failed to create listening socket: " ++ e.message
  | poller e => "failed to create epoll instance: " ++ e.message
  | engine e => "failed to set up aio context: " ++ e.message
  | eventLoop e => "event loop failure: " ++ e.message

/-- What lies behind the failure, in words, one cause after the other. -/
def causes : StartupError → List String
  | settings e => e.message :: e.causes
  | listen e | poller e | engine e | eventLoop e => [e.message]

end StartupError

/-- What the system knows a socket by. -/
abbrev Descriptor := Nat

/-- A connection that was accepted and not yet closed. -/
structure Entry (S : Type) where
  connection : Connection
  socket : S
  descriptor : Descriptor
  /-- What its socket is watched for. -/
  interest : Interest

/-- A connection that waits to be accepted, and what the system will refuse about it. -/
structure Arrival (S : Type) where
  socket : S
  /-- The address of the client. -/
  peer : String
  /-- Why its socket cannot be made non-blocking, if it cannot. -/
  blocking : Option SystemError := none
  /-- Why its socket cannot be watched, if it cannot. -/
  unwatched : Option SystemError := none

/-- What accepting a connection comes to. -/
inductive Accepting (S : Type)
  | arrived (arrival : Arrival S)
  /-- A signal came in between. -/
  | interrupted
  | failed (error : SystemError)

/-- A server. -/
structure Server (S : Type) where
  settings : Settings
  endpoint : Endpoint
  /-- What the next attempts to accept a connection come to; behind them none waits. -/
  waiting : List (Accepting S) := []
  poller : Poller Descriptor
  engine : Engine
  /-- The connections by token. -/
  registry : List (UInt64 × Entry S) := []
  /-- The token that the next connection gets, if it is free. -/
  nextToken : UInt64 := 1
  notes : List Note := []

namespace Server

variable {S : Type}

/-- The token of the place where the server listens. -/
def listenerToken : UInt64 := 0

/-- The descriptor of the place where the server listens. -/
def listenerDescriptor : Descriptor := 0

/-- How the place where the server listens is watched. -/
def listenerWatch : Watch := ⟨listenerToken, .read⟩

/-- The note of a server that has started. -/
def waitingNote (s : Settings) (endpoint : Endpoint) : Note :=
  ⟨.info, "server waiting for connections",
    [("addr", endpoint.text), ("root", s.documentRoot), ("static_folder", s.staticFolder),
      ("dynamic_folder", s.dynamicFolder)]⟩

/-- Starts a server. -/
def bind (n : Network) (s : Settings) : Except StartupError (Server S × Network) := do
  s.check.mapError .settings
  let engine ← (Engine.create s.inFlight).mapError .engine
  let ip ← s.address.mapError .settings
  let (endpoint, n) ← (n.listen ip s.listenPort s.backlog).mapError .listen
  let server : Server S :=
    { settings := s
      endpoint := endpoint
      poller := ⟨[(listenerDescriptor, listenerWatch)]⟩
      engine := engine
      notes := [waitingNote s endpoint] }
  return (server, n)

/-- How many connections there are. -/
def connectionCount (v : Server S) : Nat := v.registry.length

/-- The entry under a token. -/
def entry? (v : Server S) (token : UInt64) : Option (Entry S) := v.registry.lookup token

/-- Takes a note. -/
def note (v : Server S) (level : Level) (text : String) (details : List (String × String)) :
    Server S :=
  { v with notes := v.notes ++ [⟨level, text, details⟩] }

end Server

end FileServer
