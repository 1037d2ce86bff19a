import FileServer.Server.Accept

/-!
# Dispatching events

An event of a connection calls its handlers: first the one for readability, if the socket
can be read or broke off, then the one for writability, unless the first asked for the
connection to be closed. What the last one wants is what the socket is watched for from
then on. A connection that wants to be closed, or that cannot be watched as it wants,
leaves the registry, and its socket is closed.
-/

namespace FileServer.Server

variable {S : Type}

/-- What the system refuses while an event is handled. -/
structure Refusals where
  /-- Why a socket cannot be watched in another way, if it cannot. -/
  rearm : Option SystemError := none
  /-- Why a socket cannot be left unwatched, if it cannot. -/
  deregister : Option SystemError := none

/-- The session of a connection in the registry. -/
def session (v : Server S) (e : Entry S) : Session S :=
  ⟨e.connection, e.socket, v.engine, v.notes⟩

/-- Takes over what a session left behind. -/
def absorb (v : Server S) (token : UInt64) (e : Entry S) (s : Session S) : Server S :=
  let e := { e with connection := s.connection, socket := s.socket }
  { v with
    engine := s.engine
    notes := s.notes
    registry := v.registry.map fun r => if r.1 = token then (token, e) else r }

/-- What an event makes the handlers of a connection do, and what the last one wants. -/
def runHandlers [Socket S] (site : Site) (event : ReadyEvent) (s : Session S) :
    Option Next × Session S :=
  let (wish, s) :=
    if event.readable || event.hangup then
      let (next, s) := s.onReadable site event.hangup
      (some next, s)
    else (none, s)
  if event.writable && wish != some .close then
    let (next, s) := s.onWritable site
    (some next, s)
  else (wish, s)

/-- Closes a connection and takes it out of the registry. Closing its socket ends its being
    watched, even where the system refused to. -/
def teardown (v : Server S) (refusals : Refusals) (token : UInt64) : Server S :=
  match v.entry? token with
  | none => v
  | some e =>
    let v := match v.poller.deregister refusals.deregister e.descriptor with
      | .ok poller => { v with poller := poller }
      | .error error => v.note .debug "deregister failed"
          [("token", toString token), ("error", error.message)]
    { v with
      notes := (v.session e).close.notes
      registry := v.registry.filter fun r => r.1 ≠ token
      poller := v.poller.forget e.descriptor }

/-- Watches a connection for something else, or closes it where that is refused. -/
def rearm (v : Server S) (refusals : Refusals) (token : UInt64) (interest : Interest) : Server S :=
  match v.entry? token with
  | none => v
  | some e =>
    if interest = e.interest then v
    else
      match v.poller.rearm refusals.rearm e.descriptor ⟨token, interest⟩ with
      | .ok poller =>
        { v with
          poller := poller
          registry := v.registry.map fun r =>
            if r.1 = token then (token, { r.2 with interest := interest }) else r }
      | .error error =>
        (v.note .warn "cannot rearm connection"
          [("token", toString token), ("error", error.message)]).teardown refusals token

/-- Handles an event of a connection; one that is there no more is left alone. -/
def dispatch [Socket S] (v : Server S) (tree : FileTree) (refusals : Refusals)
    (event : ReadyEvent) : Server S :=
  match v.entry? event.token with
  | none => v
  | some e =>
    let (wish, s) := runHandlers ⟨v.settings, tree⟩ event (v.session e)
    let v := v.absorb event.token e s
    match wish with
    | none => v
    | some .close => v.teardown refusals event.token
    | some .read => v.rearm refusals event.token .read
    | some .write => v.rearm refusals event.token .write

/-- Handles an event. -/
def handle [Socket S] (v : Server S) (tree : FileTree) (refusals : Refusals)
    (event : ReadyEvent) : Server S :=
  if event.token = listenerToken then v.acceptAll else v.dispatch tree refusals event

/-- Handles a batch of events, one after the other. -/
def handleAll [Socket S] (v : Server S) (tree : FileTree) (refusals : Refusals)
    (events : List ReadyEvent) : Server S :=
  events.foldl (fun v event => v.handle tree refusals event) v

end FileServer.Server
