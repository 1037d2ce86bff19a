import FileServer.Proofs.Settings
import FileServer.Transfer.Overlapped
import Mathlib.Data.List.Infix

/-!
# The books of an engine

Many hands use one engine: requests are handed in in lists, completions are taken out in
rows, and now and then one request is run to its end. What each of these calls puts into the
queue and what it takes out is its `Engine.Booking`, and a *run* is a sequence of such calls
from a new engine on (`Engine.Reached`), whatever the requests are and the system makes of
them.

The books balance (`Engine.Balanced`): the queue is what was put in and not taken out, in the
order in which it was put in, and the two counters are the lengths of what was put in and of
what was taken out. Three rules say what a call does:

* `Engine.HandsIn`: the requests before the first one that is refused go into the queue,
  also where the call fails;
* `Engine.reapInto_eq`: as many completions are taken out as there are and as the row has
  slots, the oldest first;
* `Engine.runOne_of_split`: a request that is run to its end takes out what lies before the
  first completion with its tag, and that completion.
-/

namespace FileServer.Engine

/-- How a completion was taken out. -/
inductive Taking
  /-- It was put into a row of slots. -/
  | handedOut
  /-- A request that was run to its end took it for its own. -/
  | own
  /-- A request that was run to its end dropped it. -/
  | dropped
  deriving DecidableEq, Repr

/-- What a call puts into the queue of an engine, and what it takes out. -/
structure Booking where
  accepted : List Completion := []
  taken : List (Taking × Completion) := []

/-- What the search for a tag takes out: all up to the first completion with the tag. -/
def searched (tag : UInt64) : List Completion → List (Taking × Completion)
  | [] => []
  | c :: cs => if c.tag = tag then [(.own, c)] else (.dropped, c) :: searched tag cs

/-- What a request that is run to its end puts in and takes out, by the verdict on it. -/
def bookingOf {W : Type} (e : Engine) : Verdict W → Booking
  | .refused _ => {}
  | .finished result _ =>
    ⟨[⟨e.nextTag, result⟩], searched e.nextTag (e.waiting ++ [⟨e.nextTag, result⟩])⟩

/-- A call to an engine, whatever is asked of it and whatever the system makes of that. -/
inductive Call : Engine → Booking → Engine → Prop
  /-- Requests are handed in. -/
  | submit {R W : Type} (carry : R → W → Verdict W) (e : Engine) (w : W) (rs : List (Request R)) :
      Call e ⟨(accept carry w rs).completions, []⟩ (submit carry e w rs).2.1
  /-- Completions are taken out into a row of slots. -/
  | reap {e e' : Engine} {least n : Nat} {slots slots' : List Completion}
      (h : e.reapInto least slots = some (n, slots', e')) :
      Call e ⟨[], (slots'.take n).map (.handedOut, ·)⟩ e'
  /-- A request is run to its end. -/
  | runOne {R W : Type} (carry : R → W → Verdict W) (e : Engine) (w : W) (transfer : R)
      (length : Nat) :
      Call e (e.bookingOf (carry transfer w)) (e.runOne carry w transfer length).engine

/-- What comes after an engine was made, and the bookings of all calls since. -/
inductive Reached : List Booking → Engine → Prop
  | create {inFlight : Nat} {e : Engine} (h : create inFlight = .ok e) : Reached [] e
  | call {history : List Booking} {booking : Booking} {e e' : Engine} (he : Reached history e)
      (hc : Call e booking e') : Reached (history ++ [booking]) e'

/-- The requests that were accepted in a run, by their completions. -/
def accepted (history : List Booking) : List Completion := history.flatMap (·.accepted)

/-- The completions that were taken out in a run. -/
def taken (history : List Booking) : List (Taking × Completion) := history.flatMap (·.taken)

/-- The books agree with the engine. -/
structure Balanced (history : List Booking) (e : Engine) : Prop where
  queue : accepted history = (taken history).map (·.2) ++ e.waiting
  submitted : e.submitted = (accepted history).length
  completed : e.completed = (taken history).length
  nextTag : e.nextTag ≠ 0

variable {R W : Type} {carry : R → W → Verdict W} {e e' : Engine} {w w' : W}
  {history : List Booking} {booking : Booking}

/-- An engine begins with nothing in it. -/
theorem eq_of_create {inFlight : Nat} (h : create inFlight = .ok e) : e = {} := by
  rw [create] at h
  obtain ⟨-, h⟩ := Settings.of_guard h
  obtain ⟨-, h⟩ := Settings.of_guard h
  exact (Except.ok.inj h).symm

/-! ### Requests that are handed in -/

/-- The requests that are accepted are the first ones, and all of them unless one is refused. -/
theorem accept_spec (carry : R → W → Verdict W) (w : W) (rs : List (Request R)) :
    (accept carry w rs).completions.map (·.tag) =
        (rs.map (·.tag)).take (accept carry w rs).completions.length ∧
      (accept carry w rs).completions.length ≤ rs.length ∧
      ((accept carry w rs).refusal = none ↔ (accept carry w rs).completions.length = rs.length) := by
  induction rs generalizing w with
  | nil => exact ⟨rfl, Nat.le_refl _, by simp [accept]⟩
  | cons r rs ih =>
    rw [accept]
    rcases hcarry : carry r.transfer w with error | ⟨result, w'⟩
    · exact ⟨rfl, Nat.zero_le _, by simp⟩
    · obtain ⟨htags, hle, hall⟩ := ih w'
      refine ⟨?_, Nat.succ_le_succ hle, ?_⟩
      · simp [htags]
      · simp [hall]

/-- Where none is accepted, the engine stays as it is. -/
theorem enqueue_nil (e : Engine) : e.enqueue [] = e := by
  rw [enqueue, List.append_nil]
  rfl

/-- What handing in requests comes to, by how many of them are accepted: with all of them it
    succeeds, and otherwise it fails, though those that are accepted go into the queue. -/
structure HandsIn (carry : R → W → Verdict W) (e : Engine) (w : W) (rs : List (Request R))
    (cs : List Completion) : Prop where
  /-- The first requests are accepted, in order. -/
  tags : cs.map (·.tag) = (rs.map (·.tag)).take cs.length
  length_le : cs.length ≤ rs.length
  /-- Just those are counted and queued. -/
  engine : (submit carry e w rs).2.1 =
    { e with submitted := e.submitted + cs.length, waiting := e.waiting ++ cs }
  all : cs.length = rs.length → (submit carry e w rs).1 = .ok rs.length
  part : cs.length < rs.length → 0 < cs.length →
    (submit carry e w rs).1 = .error (partlyAccepted cs.length rs.length)
  none : cs.length < rs.length → cs.length = 0 →
    (submit carry e w rs).2.1 = e ∧ ∃ error, (submit carry e w rs).1 = .error error

theorem handsIn_submit (carry : R → W → Verdict W) (e : Engine) (w : W) (rs : List (Request R)) :
    HandsIn carry e w rs (accept carry w rs).completions := by
  obtain ⟨htags, hle, hall⟩ := accept_spec carry w rs
  have hrefused : (accept carry w rs).completions.length < rs.length →
      ∃ error, (accept carry w rs).refusal = some error := fun hlt =>
    Option.ne_none_iff_exists'.1 fun h => Nat.ne_of_lt hlt (hall.1 h)
  refine ⟨htags, hle, rfl, fun hlen => ?_, fun hlt hpos => ?_, fun hlt hzero => ⟨?_, ?_⟩⟩
  · rw [submit]
    simp only [hall.2 hlen]
    exact congrArg Except.ok hlen
  · obtain ⟨error, herror⟩ := hrefused hlt
    obtain ⟨k, hk⟩ := Nat.exists_eq_succ_of_ne_zero (Nat.ne_of_gt hpos)
    rw [submit]
    simp only [herror]
    rw [hk]
  · rw [submit, List.eq_nil_of_length_eq_zero hzero]
    exact e.enqueue_nil
  · obtain ⟨error, herror⟩ := hrefused hlt
    refine ⟨error, ?_⟩
    rw [submit]
    simp only [herror]
    rw [hzero]

/-! ### Completions that are taken out -/

/-- As many are taken out as there are and as the row has slots, the oldest first, and no other
    slot is touched. -/
theorem reapInto_eq {least : Nat} (slots : List Completion) (h : least ≤ e.waiting.length) :
    e.reapInto least slots = some (min e.waiting.length slots.length,
      e.waiting.take slots.length ++ slots.drop (min e.waiting.length slots.length),
      { e with
        completed := e.completed + min e.waiting.length slots.length
        waiting := e.waiting.drop slots.length }) := by
  have henough : ¬e.waiting.length < min least slots.length :=
    Nat.not_lt.2 (Nat.le_trans (Nat.min_le_left _ _) h)
  rw [reapInto, reap, if_neg henough]
  simp only [Option.map_some, List.length_take, Nat.min_comm slots.length]

/-- What is taken out stands at the front of the row. -/
theorem reapInto_eq_some {least n : Nat} {slots slots' : List Completion}
    (h : e.reapInto least slots = some (n, slots', e')) :
    n = (slots'.take n).length ∧ e.waiting = slots'.take n ++ e'.waiting ∧
      e'.completed = e.completed + n ∧ e'.submitted = e.submitted ∧ e'.nextTag = e.nextTag := by
  rw [reapInto, reap] at h
  split at h
  · cases h
  · obtain ⟨rfl, rfl, rfl⟩ := by simpa using h
    rw [← List.length_take, List.take_left]
    exact ⟨rfl, (List.take_append_drop _ _).symm, rfl, rfl, rfl⟩

/-! ### Requests that are run to their end -/

/-- A completion with a tag is behind others, the last ones of which have other tags. -/
theorem exists_split {tag : UInt64} {cs : List Completion} (h : ∃ c ∈ cs, c.tag = tag) :
    ∃ foreign own left, cs = foreign ++ own :: left ∧ own.tag = tag ∧
      ∀ c ∈ foreign, c.tag ≠ tag := by
  obtain ⟨own, hown⟩ := Option.isSome_iff_exists.1
    (List.find?_isSome (p := fun c : Completion => c.tag = tag).2 (by simpa using h))
  obtain ⟨htag, foreign, left, hcs, hforeign⟩ := List.find?_eq_some_iff_append.1 hown
  exact ⟨foreign, own, left, hcs, by simpa using htag, fun c hc => by simpa using hforeign c hc⟩

variable {tag : UInt64} {own : Completion} {foreign left : List Completion}

theorem await_of_split (hown : own.tag = tag) (hforeign : ∀ c ∈ foreign, c.tag ≠ tag) :
    await tag (foreign ++ own :: left) = ⟨foreign.map (·.tag), some own, left⟩ := by
  induction foreign with
  | nil => rw [List.nil_append, await, if_pos hown, List.map_nil]
  | cons c cs ih =>
    obtain ⟨hc, hcs⟩ := List.forall_mem_cons.1 hforeign
    rw [List.cons_append, await, if_neg hc, ih hcs, List.map_cons]

theorem searched_of_split (hown : own.tag = tag) (hforeign : ∀ c ∈ foreign, c.tag ≠ tag) :
    searched tag (foreign ++ own :: left) = foreign.map (.dropped, ·) ++ [(.own, own)] := by
  induction foreign with
  | nil => rw [List.nil_append, searched, if_pos hown, List.map_nil, List.nil_append]
  | cons c cs ih =>
    obtain ⟨hc, hcs⟩ := List.forall_mem_cons.1 hforeign
    rw [List.cons_append, searched, if_neg hc, ih hcs, List.map_cons, List.cons_append]

/-- A request that was accepted is at the end of the queue, so there is a first completion with
    its tag. -/
theorem exists_split_waiting (e : Engine) (result : Except SystemError Nat) :
    ∃ foreign own left, e.waiting ++ [⟨e.nextTag, result⟩] = foreign ++ own :: left ∧
      own.tag = e.nextTag ∧ ∀ c ∈ foreign, c.tag ≠ e.nextTag :=
  exists_split ⟨_, List.mem_append_right _ (List.mem_singleton.2 rfl), rfl⟩

/-- A request that is run to its end takes out what lies before the first completion with its tag,
    and that completion, whose result it gives. -/
theorem runOne_of_split {transfer : R} {length : Nat} {result : Except SystemError Nat}
    (hcarry : carry transfer w = .finished result w')
    (hsplit : e.waiting ++ [⟨e.nextTag, result⟩] = foreign ++ own :: left)
    (hown : own.tag = e.nextTag) (hforeign : ∀ c ∈ foreign, c.tag ≠ e.nextTag) :
    e.runOne carry w transfer length = ⟨own.result,
      { e.takeTag.2 with
        submitted := e.submitted + 1
        completed := e.completed + (foreign.length + 1)
        waiting := left },
      w', submittedNote e.nextTag length :: foreign.map fun c => droppedNote c.tag⟩ := by
  have hawait : await e.nextTag (e.waiting ++ [⟨e.nextTag, result⟩]) =
      ⟨foreign.map (·.tag), some own, left⟩ := by
    rw [hsplit]
    exact await_of_split hown hforeign
  simp [runOne, submit, accept, hcarry, enqueue, takeTag, hawait, Nat.add_assoc]

/-- A request that is refused only uses up a tag. -/
theorem engine_runOne_of_refused {transfer : R} {length : Nat} {error : SystemError}
    (hcarry : carry transfer w = .refused error) :
    (e.runOne carry w transfer length).engine = e.takeTag.2 := by
  simp [runOne, submit, accept, hcarry, enqueue, takeTag]

/-- No tag of the engine's own is zero. -/
theorem nextTag_takeTag (e : Engine) : e.takeTag.2.nextTag ≠ 0 := by
  rw [takeTag]
  dsimp only
  split
  · decide
  · assumption

/-! ### Runs -/

theorem accepted_append (history : List Booking) (booking : Booking) :
    accepted (history ++ [booking]) = accepted history ++ booking.accepted := by
  rw [accepted, List.flatMap_append, List.flatMap_singleton]
  rfl

theorem taken_append (history : List Booking) (booking : Booking) :
    taken (history ++ [booking]) = taken history ++ booking.taken := by
  rw [taken, List.flatMap_append, List.flatMap_singleton]
  rfl

/-- What waits behind a call is what waited before, with what was put in behind it and without
    what was taken out in front, and the counters count both. -/
theorem Call.booked (hc : Call e booking e') :
    e.waiting ++ booking.accepted = booking.taken.map (·.2) ++ e'.waiting ∧
      e'.submitted = e.submitted + booking.accepted.length ∧
      e'.completed = e.completed + booking.taken.length ∧
      (e.nextTag ≠ 0 → e'.nextTag ≠ 0) := by
  rcases hc with ⟨carry, _, w, rs⟩ | h | ⟨carry, _, w, transfer, length⟩
  · exact ⟨rfl, rfl, rfl, id⟩
  · obtain ⟨hn, hwaiting, hcompleted, hsubmitted, htag⟩ := reapInto_eq_some h
    refine ⟨?_, hsubmitted, ?_, fun hne => htag ▸ hne⟩
    · rw [List.append_nil, List.map_map, hwaiting]
      exact congrArg (· ++ _) (List.map_id _).symm
    · rw [hcompleted, List.length_map, ← hn]
  · rcases hcarry : carry transfer w with error | ⟨result, w'⟩
    · rw [engine_runOne_of_refused hcarry]
      exact ⟨List.append_nil _, rfl, rfl, fun _ => e.nextTag_takeTag⟩
    · obtain ⟨foreign, own, left, hsplit, hown, hforeign⟩ := e.exists_split_waiting result
      rw [runOne_of_split hcarry hsplit hown hforeign, bookingOf, hsplit,
        searched_of_split hown hforeign]
      refine ⟨?_, rfl, ?_, fun _ => e.nextTag_takeTag⟩
      · simp [Function.comp_def]
      · simp

/-- A call keeps the books balanced. -/
theorem Call.balanced (hc : Call e booking e') (he : Balanced history e) :
    Balanced (history ++ [booking]) e' := by
  obtain ⟨hwaiting, hsubmitted, hcompleted, htag⟩ := hc.booked
  refine ⟨?_, ?_, ?_, htag he.nextTag⟩
  · rw [accepted_append, taken_append, he.queue, List.append_assoc, hwaiting, List.map_append,
      List.append_assoc]
  · rw [hsubmitted, accepted_append, List.length_append, he.submitted]
  · rw [hcompleted, taken_append, List.length_append, he.completed]

/-- The books balance in every run. -/
theorem Reached.balanced (he : Reached history e) : Balanced history e := by
  induction he with
  | create h =>
    obtain rfl := eq_of_create h
    exact ⟨rfl, rfl, rfl, by decide⟩
  | call _ hc ih => exact hc.balanced ih

/-- In every run the books balance, so what was taken out are the first requests that were accepted,
    each once, and what the counters differ by still waits. Requests that are handed in count as
    far as they are accepted, also where the call fails; a request that is run to its end notes
    what it drops and gives the result of the last completion that it takes; and as many
    completions are handed out as there are and as there are slots for them. -/
theorem Reached.accounts (he : Reached history e) :
    (Balanced history e ∧ (taken history).map (·.2) = (accepted history).take e.completed ∧
      e.completed ≤ e.submitted ∧ e.submitted - e.completed = e.waiting.length) ∧
    (∀ {R W : Type} (carry : R → W → Verdict W) (w : W) (rs : List (Request R)),
      HandsIn carry e w rs (accept carry w rs).completions) ∧
    (∀ {R W : Type} (carry : R → W → Verdict W) (w : W) (transfer : R) (length : Nat)
      (result : Except SystemError Nat) (w' : W), carry transfer w = .finished result w' →
      ∃ (foreign : List Completion) (own : Completion), (e.bookingOf (carry transfer w)).taken =
          foreign.map (.dropped, ·) ++ [(.own, own)] ∧
        (e.runOne carry w transfer length).result = own.result ∧
        (e.runOne carry w transfer length).notes =
          submittedNote e.nextTag length :: foreign.map fun c => droppedNote c.tag) ∧
    ∀ (least : Nat) (slots : List Completion), least ≤ e.waiting.length →
      ∃ slots' e', e.reapInto least slots =
          some (min e.waiting.length slots.length, slots', e') ∧
        slots' = e.waiting.take slots.length ++
          slots.drop (min e.waiting.length slots.length) ∧
        e'.waiting = e.waiting.drop slots.length ∧
        e'.completed = e.completed + min e.waiting.length slots.length ∧
        e'.submitted = e.submitted := by
  have hb := he.balanced
  have hsum : e.submitted = e.completed + e.waiting.length := by
    rw [hb.submitted, hb.queue, List.length_append, List.length_map, hb.completed]
  refine ⟨⟨hb, ?_, ?_, ?_⟩, fun carry w rs => handsIn_submit carry e w rs, ?_, ?_⟩
  · -- What was taken out stands in front of what waits.
    rw [hb.queue, hb.completed]
    exact (List.take_left' (List.length_map _)).symm
  · omega
  · omega
  · -- Up to the first completion with its tag, a request that is run drops what it takes.
    intro R W carry w transfer length result w' hcarry
    obtain ⟨foreign, own, left, hsplit, hown, hforeign⟩ := e.exists_split_waiting result
    refine ⟨foreign, own, ?_, ?_⟩
    · rw [hcarry, bookingOf, hsplit, searched_of_split hown hforeign]
    · rw [runOne_of_split hcarry hsplit hown hforeign]
      exact ⟨rfl, rfl⟩
  · intro least slots hleast
    exact ⟨_, _, reapInto_eq slots hleast, rfl, rfl, rfl, rfl⟩

/-! ### A short run -/

namespace Rivals

/-- A file of two bytes and nothing else. -/
def tree : FileTree := ⟨[], [(0, .ofBytes [104, 105])], 1, []⟩

/-- Two reads of the file, one of them under the first tag of the engine's own, and a read of a
    file that is not there. -/
def reads : List (Request FileRange) := [⟨7, ⟨0, 0, 2⟩⟩, ⟨1, ⟨0, 1, 5⟩⟩, ⟨0, ⟨3, 0, 1⟩⟩]

/-- The reads are handed in. -/
def handedIn : Engine := (submit (readFile tree) {} (.ofBytes []) reads).2.1

/-- The file is read to its end. -/
def served : Answer LazyBytes := handedIn.readAt tree ⟨0, 0, 2⟩ (.ofBytes [])

/-- What the two calls put in and took out. -/
def bookings : List Booking :=
  [⟨(accept (readFile tree) (.ofBytes []) reads).completions, []⟩,
    handedIn.bookingOf (readFile tree ⟨0, 0, 2⟩ (.ofBytes []))]

theorem reached_handedIn :
    Reached [⟨(accept (readFile tree) (.ofBytes []) reads).completions, []⟩] handedIn :=
  (Reached.create (show create 8 = .ok {} from rfl)).call (.submit (readFile tree) {} (.ofBytes []) reads)

theorem reached_served : Reached bookings served.engine :=
  reached_handedIn.call (.runOne (readFile tree) handedIn (.ofBytes []) ⟨0, 0, 2⟩ 2)

end Rivals

/-- Of three reads two are accepted, though the call fails, and the read that is then run to its end
    takes out both. What it came to itself still waits, and is handed out into the first of two
    slots. -/
theorem accounts_served : Reached Rivals.bookings Rivals.served.engine ∧
    (submit (readFile Rivals.tree) {} (.ofBytes []) Rivals.reads).1 = .error (partlyAccepted 2 3) ∧
    Rivals.served.engine.submitted - Rivals.served.engine.completed = 1 ∧
    (taken Rivals.bookings).map (·.2) = (accepted Rivals.bookings).take 2 ∧
    ∃ e', Rivals.served.engine.reapInto 1 [⟨5, .ok 5⟩, ⟨6, .ok 6⟩] =
      some (1, [⟨1, .ok 2⟩, ⟨6, .ok 6⟩], e') := by
  obtain ⟨⟨-, htaken, -, houtstanding⟩, -, -, hreap⟩ := Reached.accounts Rivals.reached_served
  obtain ⟨slots, e', hrow, rfl, -⟩ := hreap 1 [⟨5, .ok 5⟩, ⟨6, .ok 6⟩] (by decide)
  exact ⟨Rivals.reached_served, rfl, houtstanding, htaken, e', hrow⟩

end FileServer.Engine
