import FileServer.Note
import FileServer.SystemError

/-!
# The engine for overlapped transfers

Requests are handed in with a tag and their completions are taken out later, in
the order in which the requests were accepted. The engine keeps count of both.

* `Engine.submit` hands in a list of requests. The system may refuse one of them;
  those before it then count, and those behind it are not looked at.
* `Engine.reap` takes completions out, the oldest first; `Engine.reapInto` puts them into the
  slots of a row.
* `Engine.runOne` hands in one request under a tag of the engine's own and takes
  completions out until that request's own shows up. Completions of others that
  lie before it are dropped.

What a request is and what carrying it out does to the world is a parameter: a
function that gives a `Verdict` on a request.
-/

namespace FileServer

/-- What the system makes of a request that is handed in: it refuses it, or carries
    it out, which succeeds with a number of bytes or fails. -/
inductive Verdict (W : Type)
  | refused (error : SystemError)
  | finished (result : Except SystemError Nat) (world : W)

/-- A request with the tag by which its completion is known. -/
structure Request (R : Type) where
  tag : UInt64
  transfer : R

/-- The end of a request. -/
structure Completion where
  tag : UInt64
  /-- How many bytes were transferred, or why none were. -/
  result : Except SystemError Nat

/-- The requests of an engine, counted, and the completions nobody has taken. -/
structure Engine where
  /-- The tag for the next request of its own. -/
  nextTag : UInt64 := 1
  /-- How many requests were accepted. -/
  submitted : Nat := 0
  /-- How many completions were taken out. -/
  completed : Nat := 0
  /-- The completions not taken out, oldest first. -/
  waiting : List Completion := []

namespace Engine

/-- How many requests in flight the system grants. -/
def maxInFlight : Nat := 65536

/-- How many places a ring for completions can have. -/
def maxPlaces : Nat := Nat.pow 2 23

/-- The places of the ring for so many requests in flight, twice as many as those,
    counted in 32 bits. -/
def places (inFlight : Nat) : Nat := 2 * inFlight % Nat.pow 2 32

/-- A new engine for so many requests in flight. -/
def create (inFlight : Nat) : Except SystemError Engine :=
  if inFlight = 0 ∨ maxPlaces < places inFlight then .error .invalid
  else if maxInFlight < inFlight then .error .again
  else .ok {}

/-- What happened to a list of requests. -/
structure Acceptance (W : Type) where
  /-- The completions of those that were accepted, in order. -/
  completions : List Completion
  /-- Why the one behind them was refused, if one was. -/
  refusal : Option SystemError
  world : W

/-- Carries requests out one by one until one is refused. -/
def accept {R W : Type} (carry : R → W → Verdict W) (w : W) : List (Request R) → Acceptance W
  | [] => ⟨[], none, w⟩
  | r :: rs =>
    match carry r.transfer w with
    | .refused e => ⟨[], some e, w⟩
    | .finished result w =>
      let later := accept carry w rs
      { later with completions := ⟨r.tag, result⟩ :: later.completions }

/-- The failure of a list of requests of which only the first `k` were accepted. -/
def partlyAccepted (k n : Nat) : SystemError :=
  .own .other s!"io_submit accepted {k} of {n} requests"

/-- The engine with completions behind those that wait. -/
def enqueue (e : Engine) (cs : List Completion) : Engine :=
  { e with submitted := e.submitted + cs.length, waiting := e.waiting ++ cs }

/-- Hands in requests. Unless all are accepted the call fails, though the ones before
    the refused one count and are carried out. -/
def submit {R W : Type} (carry : R → W → Verdict W) (e : Engine) (w : W)
    (rs : List (Request R)) : Except SystemError Nat × Engine × W :=
  let a := accept carry w rs
  let answer := match a.refusal, a.completions.length with
    | none, n => .ok n
    | some error, 0 => .error error
    | some _, k + 1 => .error (partlyAccepted (k + 1) rs.length)
  (answer, e.enqueue a.completions, a.world)

/-- Takes out at most `cap` completions, and at least `least` or `cap`, whichever is
    less. Without so many the call would wait for ever. -/
def reap (e : Engine) (least cap : Nat) : Option (List Completion × Engine) :=
  if e.waiting.length < min least cap then none
  else
    let taken := e.waiting.take cap
    some (taken, { e with
      completed := e.completed + taken.length
      waiting := e.waiting.drop cap })

/-- Takes completions out into a row of slots, from its front on. Tells how many there were and
    what the row holds then; the slots behind them stay as they are. -/
def reapInto (e : Engine) (least : Nat) (slots : List Completion) :
    Option (Nat × List Completion × Engine) :=
  (e.reap least slots.length).map fun (taken, e) =>
    (taken.length, taken ++ slots.drop taken.length, e)

/-- A tag of the engine's own; zero is left out. -/
def takeTag (e : Engine) : UInt64 × Engine :=
  let next := e.nextTag + 1
  (e.nextTag, { e with nextTag := if next = 0 then 1 else next })

/-- What `await` came to. -/
structure Awaited where
  /-- The tags of the completions that were dropped, in order. -/
  dropped : List UInt64
  /-- The completion that was waited for. -/
  own : Option Completion
  /-- What is left. -/
  left : List Completion

/-- Looks for the first completion with the tag and drops those before it. -/
def await (tag : UInt64) : List Completion → Awaited
  | [] => ⟨[], none, []⟩
  | c :: cs =>
    if c.tag = tag then ⟨[], some c, cs⟩
    else
      let later := await tag cs
      { later with dropped := c.tag :: later.dropped }

/-- The note of a request handed in. -/
def submittedNote (tag : UInt64) (bytes : Nat) : Note :=
  ⟨.trace, "aio request submitted", [("tag", toString tag), ("bytes", toString bytes)]⟩

/-- The note of a completion dropped. -/
def droppedNote (tag : UInt64) : Note :=
  ⟨.warn, "dropping completion of a request submitted elsewhere", [("tag", toString tag)]⟩

/-- What one request of the engine's own came to. -/
structure Answer (W : Type) where
  result : Except SystemError Nat
  engine : Engine
  world : W
  notes : List Note

/-- Hands in one request of `length` bytes and waits for its completion. It lies
    among those that wait once the request is accepted, so the failure below is never
    the answer. -/
def runOne {R W : Type} (carry : R → W → Verdict W) (e : Engine) (w : W) (transfer : R)
    (length : Nat) : Answer W :=
  let (tag, e) := e.takeTag
  match submit carry e w [⟨tag, transfer⟩] with
  | (.error error, e, w) => ⟨.error error, e, w, []⟩
  | (.ok _, e, w) =>
    let a := await tag e.waiting
    let e := { e with
      completed := e.completed + a.dropped.length + a.own.toList.length
      waiting := a.left }
    let result := match a.own with
      | some c => c.result
      | none => .error .again
    ⟨result, e, w, submittedNote tag length :: a.dropped.map droppedNote⟩

end Engine

end FileServer
