import FileServer.FileTree
import FileServer.Readiness
import FileServer.Socket.Duplex

/-!
# Watching connections by name

A `Board` holds connections and plain files by name, with a poller over the names. The
system refuses to watch a plain file, and anything that is not there.
-/

namespace FileServer

/-- What the server's end of a connection is ready for. -/
def Duplex.ready (d : Duplex) : Ready :=
  ⟨!d.inbound.isEmpty || d.ended, d.closed || !d.isFull, d.closed⟩

/-- The way to the peer filled until it takes no more. -/
def Duplex.fill (d : Duplex) : Duplex :=
  if d.closed || d.isFull then d
  else { d with outbound := d.outbound ++ List.replicate d.room 0 }

/-- Something that a descriptor can lead to. -/
inductive Watched
  | stream (ends : Duplex)
  | plainFile
  deriving Repr

/-- Connections and files by name, and what is watched of them. -/
structure Board where
  things : List (String × Watched) := []
  poller : Poller String := {}
  deriving Repr

namespace Board

/-- What a name stands for. -/
def thing? (b : Board) (name : String) : Option Watched := b.things.lookup name

/-- Gives a name a meaning. -/
def set (b : Board) (name : String) (w : Watched) : Board :=
  { b with things := FileTree.put name w b.things }

/-- The connection of a name. -/
def stream? (b : Board) (name : String) : Option Duplex :=
  match b.thing? name with
  | some (.stream d) => some d
  | _ => none

/-- Changes the connection of a name. -/
def modify (b : Board) (name : String) (f : Duplex → Duplex) : Board :=
  match b.stream? name with
  | some d => b.set name (.stream (f d))
  | none => b

/-- The names of all connections, in order. -/
def streamNames (b : Board) : List String :=
  let names := b.things.filterMap fun (name, w) => match w with
    | .stream _ => some name
    | .plainFile => none
  names.mergeSort fun x y => decide (x ≤ y)

/-- Why the system refuses to watch what a name stands for, if it does. -/
def refusal (b : Board) (name : String) : Option SystemError :=
  match b.thing? name with
  | none => some .badDescriptor
  | some .plainFile => some (.os .notPermitted)
  | some (.stream _) => none

/-- The board with what became of its poller. -/
def withPoller (b : Board) (r : Except SystemError (Poller String)) : Except SystemError Board :=
  r.map fun p => { b with poller := p }

/-- Begins to watch. -/
def register (b : Board) (name : String) (w : Watch) : Except SystemError Board :=
  b.withPoller (b.poller.register (b.refusal name) name w)

/-- Watches in another way. -/
def rearm (b : Board) (name : String) (w : Watch) : Except SystemError Board :=
  b.withPoller (b.poller.rearm (b.refusal name) name w)

/-- Stops watching. -/
def deregister (b : Board) (name : String) : Except SystemError Board :=
  b.withPoller (b.poller.deregister (b.refusal name) name)

/-- Begins to watch every connection, under tokens that count up; those that are watched
    already stay as they are. -/
def registerAll (b : Board) (token : UInt64) (interest : Interest) : Board :=
  (b.streamNames.foldl (fun (b, token) name =>
    (((b.register name ⟨token, interest⟩).toOption).getD b, token + 1)) (b, token)).1

/-- Closes both ends of a connection, which also ends its being watched. -/
def drop (b : Board) (name : String) : Board :=
  { b with
    things := b.things.filter (·.1 != name)
    poller := b.poller.forget name }

/-- The events there are. -/
def poll (b : Board) : List ReadyEvent :=
  b.poller.poll fun name => ((b.stream? name).map Duplex.ready).getD ⟨false, false, false⟩

end Board

end FileServer
