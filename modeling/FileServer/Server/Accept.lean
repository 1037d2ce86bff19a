import FileServer.Server

/-!
# Accepting connections

Every connection that waits is accepted, given a token and a descriptor that no other has,
and watched for something to read. A connection that cannot be watched is dropped.

`Server.freeToken` goes through the numbers from the next one on, in a circle, until it
finds one that is free; a registry of `n` connections is passed after `n + 2` at most.
-/

namespace FileServer.Server

variable {S : Type}

/-- Whether a token can be given to a new connection. -/
def isFree (used : List UInt64) (token : UInt64) : Bool :=
  token != listenerToken && !used.contains token

/-- The first free token from the one given on, looking at so many. -/
def freeFrom (used : List UInt64) : Nat → UInt64 → UInt64
  | 0, token => token
  | rounds + 1, token =>
    if isFree used token then token else freeFrom used rounds (token + 1)

/-- The tokens in use. -/
def tokens (v : Server S) : List UInt64 := v.registry.map (·.1)

/-- A free token; the next search begins behind it. -/
def takeToken (v : Server S) : UInt64 × Server S :=
  let token := freeFrom v.tokens (v.registry.length + 2) v.nextToken
  (token, { v with nextToken := token + 1 })

/-- The descriptors that are open. -/
def descriptors (v : Server S) : List Descriptor :=
  listenerDescriptor :: v.registry.map fun e => e.2.descriptor

/-- A descriptor that is not open: one more than the greatest that is. -/
def freeDescriptor (v : Server S) : Descriptor := v.descriptors.foldl max 0 + 1

/-- Takes an accepted connection into the registry. -/
def addConnection (v : Server S) (a : Arrival S) : Server S :=
  match a.blocking with
  | some e =>
    v.note .warn "cannot make socket non-blocking" [("peer", a.peer), ("error", e.message)]
  | none =>
    let descriptor := v.freeDescriptor
    let (token, v) := v.takeToken
    match v.poller.register a.unwatched descriptor ⟨token, .read⟩ with
    | .error e =>
      v.note .warn "cannot register connection" [("peer", a.peer), ("error", e.message)]
    | .ok poller =>
      let v := v.note .info "new connection"
        [("token", toString token), ("peer", a.peer), ("fd", toString descriptor)]
      let entry : Entry S := ⟨{ token := token, peer := a.peer }, a.socket, descriptor, .read⟩
      { v with poller := poller, registry := v.registry ++ [(token, entry)] }

/-- Accepts until none waits, or until that fails. What is left waits for another time. -/
def acceptFrom (v : Server S) : List (Accepting S) → Server S
  | [] => { v with waiting := [] }
  | .arrived a :: rest => acceptFrom (v.addConnection a) rest
  | .interrupted :: rest => acceptFrom v rest
  | .failed e :: rest => { v.note .warn "accept failed" [("error", e.message)] with waiting := rest }

/-- Accepts the connections that wait. -/
def acceptAll (v : Server S) : Server S := acceptFrom v v.waiting

end FileServer.Server
