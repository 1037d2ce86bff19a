import FileServer.Proofs.Server.Calls
import FileServer.Proofs.Transfer.Spending
import Mathlib.Algebra.GroupWithZero.Nat

/-!
# Attempts to move a chunk

The only thing that a connection does with the engine is to move chunks. An attempt to move
one (`Attempt`) is a read that is to fill it and, once it is filled, a write that is to take
all of it, each of them a request to the engine (`Errand`). The system may refuse either,
and either may fail or fall short.

What attempts do is told by `Session.Attempted`, which composes. An attempt that moved its
chunk has two requests to its account, and each was given its own completion. One that did
not has two at most, and is the last that is made, because the handler then wants the
connection closed. One handler makes one attempt at most (`Session.attempted_handle`), and
handlers that are called one after the other make those of each
(`Session.attempted_callAll`).
-/

namespace FileServer

variable {S : Type}

/-- How many requests are accepted: one, unless the system refuses it. -/
def Verdict.accepted {W : Type} : Verdict W → Nat
  | refused _ => 0
  | finished _ _ => 1

/-- A request to the engine. -/
structure Errand where
  /-- How many requests the system accepted, one or none. -/
  accepted : Nat
  /-- What the system made of the request. -/
  result : Except SystemError Nat
  /-- What the engine gave back. -/
  answer : Except SystemError Nat

/-- Whether so many bytes were transferred. -/
def Errand.gives (errand : Errand) (n : Nat) : Bool :=
  match errand.answer with
  | .ok m => m == n
  | .error _ => false

theorem Errand.gives_iff {errand : Errand} {n : Nat} : errand.gives n ↔ errand.answer = .ok n := by
  rw [gives]
  rcases errand.answer with error | m
  · simp
  · simp

/-- The request got its own completion, and was accepted if it succeeded. -/
structure Errand.Own (errand : Errand) : Prop where
  answer_eq : errand.answer = errand.result
  accepted_le : errand.accepted ≤ 1
  accepted_of_ok : ∀ n, errand.answer = .ok n → errand.accepted = 1

namespace Engine

variable {R W : Type}

/-- A request that is run to its end. -/
def errand (e : Engine) (carry : R → W → Verdict W) (w : W) (transfer : R) (length : Nat) :
    Errand :=
  ⟨(carry transfer w).accepted, (carry transfer w).result,
    (e.runOne carry w transfer length).result⟩

/-- A request to read a range of a file into a buffer. -/
def reading (e : Engine) (t : FileTree) (range : FileRange) (buffer : LazyBytes) : Errand :=
  e.errand (readFile t) buffer range range.length

/-- A request to write bytes to a socket. -/
def writing [Sink S] (e : Engine) (socket : S) (bs : Bytes) : Errand :=
  e.errand writeSocket socket bs bs.length

variable {e : Engine} {carry : R → W → Verdict W} {w : W} {transfer : R} {length : Nat}

/-- Where nothing waits, a request costs a tag, and is counted if it is accepted. -/
theorem engine_runOne (he : e.waiting = []) :
    (e.runOne carry w transfer length).engine = e.spend 1 (carry transfer w).accepted := by
  rcases hcarry : carry transfer w with error | ⟨result, w'⟩
  · rw [runOne_of_refused hcarry]
    rfl
  · rw [runOne_of_finished he hcarry]
    rfl

/-- Where nothing waits, a request gets its own completion. -/
theorem own_errand (he : e.waiting = []) : (e.errand carry w transfer length).Own := by
  have hanswer : (e.runOne carry w transfer length).result = (carry transfer w).result :=
    result_runOne he
  refine ⟨hanswer, ?_, fun n hn => ?_⟩
  · rw [errand]
    rcases carry transfer w with error | ⟨result, w'⟩
    · exact Nat.zero_le 1
    · exact Nat.le_refl 1
  · rw [errand, hanswer] at hn
    rw [errand]
    rcases hcarry : carry transfer w with error | ⟨result, w'⟩
    · rw [hcarry] at hn
      cases hn
    · rfl

end Engine

/-- An attempt to move a chunk. -/
structure Attempt where
  /-- How long the chunk is. -/
  length : Nat
  read : Errand
  /-- The write, if the read filled the chunk. -/
  write : Option Errand

namespace Attempt

/-- How many requests the system accepted. -/
def accepted (a : Attempt) : Nat := a.read.accepted + (a.write.map (·.accepted)).getD 0

/-- Whether all of the chunk was taken. -/
def moved (a : Attempt) : Bool := a.write.any (·.gives a.length)

/-- Each request got its own completion, and both were accepted if the chunk was moved. -/
structure Own (a : Attempt) : Prop where
  read : a.read.Own
  write : ∀ write ∈ a.write, write.Own
  accepted_le : a.accepted ≤ 2
  accepted_of_moved : a.moved → a.accepted = 2

/-- How many requests were accepted in all. -/
def allAccepted (l : List Attempt) : Nat := (l.map accepted).sum

/-- How many requests were accepted for chunks that were not moved. -/
def vain (l : List Attempt) : Nat := allAccepted (l.filter fun a => !a.moved)

theorem allAccepted_append (l l' : List Attempt) :
    allAccepted (l ++ l') = allAccepted l + allAccepted l' := by
  rw [allAccepted, List.map_append, List.sum_append]
  rfl

/-- Two requests are accepted for each chunk that is moved; all others are in vain. -/
theorem allAccepted_eq {l : List Attempt} (h : ∀ a ∈ l, a.Own) :
    allAccepted l = 2 * l.countP moved + vain l := by
  induction l with
  | nil => rfl
  | cons a l ih =>
    obtain ⟨ha, hl⟩ := List.forall_mem_cons.1 h
    have hcons : ∀ l, allAccepted (a :: l) = a.accepted + allAccepted l := fun _ => List.sum_cons
    have hlater := ih hl
    rw [vain] at hlater ⊢
    by_cases hmoved : a.moved
    · have htwo := ha.accepted_of_moved hmoved
      rw [hcons, List.countP_cons_of_pos hmoved, List.filter_cons_of_neg (by simp [hmoved])]
      omega
    · rw [hcons, List.countP_cons_of_neg hmoved, List.filter_cons_of_pos (by simp [hmoved]), hcons]
      omega

end Attempt

namespace Connection

variable {site : Site} {quiet : Prop} {next : Next} {w : Bytes} {c c' : Connection}

theorem Intake.chunks_eq (h : Intake c next c') : c'.chunks = c.chunks := by
  cases h <;> rfl

/-- Chunks are only counted in the phase in which they are moved. -/
theorem Output.chunks_eq (h : Output site quiet c next w c') (hp : c.phase ≠ .movingChunks) :
    c'.chunks = c.chunks := by
  cases h with
  | movesChunk chunk hphase => exact absurd hphase hp
  | _ => rfl

end Connection

namespace Session

/-! ### The attempt of a handler -/

section

variable [Sink S]

/-- Where the next chunk of an open file lies. -/
def chunkRange (site : Site) (s : Session S) (id : FileId) : FileRange :=
  ⟨id, s.connection.body.offset, s.connection.chunkLength site⟩

/-- The buffer that the next chunk is read into. -/
def chunkBuffer (site : Site) (s : Session S) : LazyBytes :=
  s.connection.chunk.widen (s.connection.chunkLength site)

/-- What reading the next chunk comes to. -/
def chunkRead (site : Site) (s : Session S) (id : FileId) : Engine.Answer LazyBytes :=
  s.engine.readAt site.tree (s.chunkRange site id) (s.chunkBuffer site)

/-- The session when the next chunk was read. -/
def afterRead (site : Site) (s : Session S) (id : FileId) : Session S :=
  (s.afterRequest (s.chunkRead site id)).update fun c =>
    { c with chunk := (s.chunkRead site id).world }

/-- The request to read the next chunk. -/
def reading (site : Site) (s : Session S) (id : FileId) : Errand :=
  s.engine.reading site.tree (s.chunkRange site id) (s.chunkBuffer site)

/-- The request to write the first bytes of the chunk. -/
def writing (s : Session S) (n : Nat) : Errand :=
  s.engine.writing s.socket (s.connection.chunk.toBytes.take n)

/-- The attempt to move a chunk of an open file: to read it, and to write it if it is filled. -/
def attempt (site : Site) (s : Session S) (id : FileId) : Attempt :=
  let n := s.connection.chunkLength site
  ⟨n, s.reading site id,
    if (s.reading site id).gives n then some ((s.afterRead site id).writing n) else none⟩

/-- The attempt that a handler makes, if it makes one. -/
def attempt? (site : Site) (s : Session S) : Signal → Option Attempt
  | .readable _ => none
  | .writable =>
    if s.connection.phase = .movingChunks then s.connection.file.map (s.attempt site) else none

end

/-- What was done to the engine and the count of chunks, by the attempts that were made. Unless the
    chunk of the last one was moved, the connection is to be closed. -/
structure Attempted (s s' : Session S) (closes : Prop) (attempts : List Attempt) : Prop where
  engine : ∃ tags, s'.engine = s.engine.spend tags (Attempt.allAccepted attempts)
  chunks : s'.connection.chunks = s.connection.chunks + attempts.countP Attempt.moved
  own : ∀ a ∈ attempts, a.Own
  last : ∀ a ∈ attempts, a.moved = false →
    closes ∧ ∃ front, attempts = front ++ [a] ∧ ∀ b ∈ front, b.moved = true

namespace Attempted

variable {s s' s'' : Session S} {closes : Prop} {attempts later : List Attempt}

/-- Where no attempt is made, nothing is done to the engine or to the count of chunks. -/
theorem nil (hengine : s'.engine = s.engine)
    (hchunks : s'.connection.chunks = s.connection.chunks) : Attempted s s' closes [] :=
  ⟨⟨0, hengine⟩, hchunks,
    fun _ ha => absurd ha List.not_mem_nil, fun _ ha => absurd ha List.not_mem_nil⟩

/-- An attempt that moved its chunk, or is the last one. -/
theorem single {a : Attempt} (hengine : ∃ tags, s'.engine = s.engine.spend tags a.accepted)
    (hown : a.Own)
    (hmoved : a.moved = true → s'.connection.chunks = s.connection.chunks + 1)
    (hfailed : a.moved = false → closes ∧ s'.connection.chunks = s.connection.chunks) :
    Attempted s s' closes [a] := by
  obtain ⟨tags, hengine⟩ := hengine
  refine ⟨⟨tags, ?_⟩, ?_, List.forall_mem_singleton.2 hown, fun b hb hnot => ?_⟩
  · rw [Attempt.allAccepted, List.map_singleton, List.sum_singleton]
    exact hengine
  · rcases hm : a.moved with _ | _
    · rw [List.countP_singleton, hm]
      exact (hfailed hm).2
    · rw [List.countP_singleton, hm]
      exact hmoved hm
  · obtain rfl := List.mem_singleton.1 hb
    exact ⟨(hfailed hnot).1, [], rfl, fun b hb => absurd hb List.not_mem_nil⟩

/-- Attempts go on only where the connection is not to be closed. -/
theorem append {closes' : Prop} (h : Attempted s s' closes' attempts) (hopen : ¬closes')
    (h' : Attempted s' s'' closes later) : Attempted s s'' closes (attempts ++ later) := by
  obtain ⟨tags, hengine⟩ := h.engine
  obtain ⟨tags', hengine'⟩ := h'.engine
  have hmoved : ∀ a ∈ attempts, a.moved = true := fun a ha =>
    Bool.not_eq_false _ ▸ fun hnot => hopen (h.last a ha hnot).1
  refine ⟨⟨tags' + tags, ?_⟩, ?_, ?_, fun a ha hnot => ?_⟩
  · rw [hengine', hengine, Engine.spend_spend, Attempt.allAccepted_append]
  · rw [h'.chunks, h.chunks, List.countP_append, Nat.add_assoc]
  · exact fun a ha => (List.mem_append.1 ha).elim (h.own a) (h'.own a)
  · rcases List.mem_append.1 ha with ha | ha
    · exact absurd (hmoved a ha) (by simp [hnot])
    · obtain ⟨hcloses, front, hlater, hfront⟩ := h'.last a ha hnot
      refine ⟨hcloses, attempts ++ front, ?_, fun b hb => ?_⟩
      · rw [hlater, List.append_assoc]
      · exact (List.mem_append.1 hb).elim (hmoved b) (hfront b)

end Attempted

/-- An attempt after which the connection is to be closed is so, whatever else is told of it. -/
theorem Attempted.mono {s s' : Session S} {closes closes' : Prop} {attempts : List Attempt}
    (h : Attempted s s' closes attempts) (hcloses : closes → closes') :
    Attempted s s' closes' attempts :=
  ⟨h.engine, h.chunks, h.own, fun a ha hnot => ⟨hcloses (h.last a ha hnot).1, (h.last a ha hnot).2⟩⟩

section

variable [Sink S] {site : Site} {s : Session S}

/-- To write a chunk costs a request, and the chunk is counted if all of it was taken. -/
theorem writeChunk_spends (hq : s.engine.waiting = []) (n : Nat) :
    (s.writeChunk n).2.engine = s.engine.spend 1 (s.writing n).accepted ∧
      ((s.writing n).gives n = true →
        (s.writeChunk n).2.connection.chunks = s.connection.chunks + 1) ∧
      ((s.writing n).gives n = false → wish (s.writeChunk n).1 = .close ∧
        (s.writeChunk n).2.connection.chunks = s.connection.chunks) := by
  have hengine : (s.engine.writeFrom s.socket (s.connection.chunk.toBytes.take n)).engine =
      s.engine.spend 1 (s.writing n).accepted := Engine.engine_runOne hq
  have hanswer : (s.writing n).answer =
      (s.engine.writeFrom s.socket (s.connection.chunk.toBytes.take n)).result := rfl
  rw [Errand.gives, hanswer, writeChunk]
  dsimp only
  rcases hresult : (s.engine.writeFrom s.socket (s.connection.chunk.toBytes.take n)).result
    with error | m
  · -- The write fails.
    refine ⟨hengine, fun h => ?_, fun _ => ⟨rfl, rfl⟩⟩
    cases h
  · by_cases hm : m = n
    · -- All of the chunk is taken.
      simp only [if_pos hm]
      refine ⟨?_, fun _ => ?_, fun h => ?_⟩
      · rw [(countChunk_frame _ _).2]
        exact hengine
      · rw [countChunk_connection]
        rfl
      · simp [hm] at h
    · -- Only a part of it is taken.
      simp only [if_neg hm]
      exact ⟨hengine, fun h => absurd (beq_iff_eq.1 h) hm, fun _ => ⟨rfl, rfl⟩⟩

/-- A chunk that the read filled is written. -/
theorem sendChunk_of_filled {id : FileId} (hfile : s.connection.file = some id)
    (h : (s.reading site id).gives (s.connection.chunkLength site)) :
    s.sendChunk site = (s.afterRead site id).writeChunk (s.connection.chunkLength site) := by
  have hresult : (s.chunkRead site id).result = .ok (s.connection.chunkLength site) :=
    Errand.gives_iff.1 h
  rw [chunkRead, chunkRange, chunkBuffer, Connection.chunkLength] at hresult
  rw [sendChunk, hfile]
  simp only [hresult, if_true]
  rfl

/-- Where the read did not fill the chunk, nothing is written. -/
theorem sendChunk_of_unfilled {id : FileId} (hfile : s.connection.file = some id)
    (h : (s.reading site id).gives (s.connection.chunkLength site) = false) :
    ∃ failure, s.sendChunk site = (.error failure, s.afterRead site id) := by
  have hanswer : (s.reading site id).answer = (s.chunkRead site id).result := rfl
  rw [Errand.gives, hanswer, chunkRead, chunkRange, chunkBuffer, Connection.chunkLength] at h
  rw [sendChunk, hfile]
  dsimp only
  split at h
  · rename_i m hresult
    rw [hresult]
    simp only [if_neg (beq_eq_false_iff_ne.1 h)]
    exact ⟨_, rfl⟩
  · rename_i error hresult
    rw [hresult]
    exact ⟨_, rfl⟩

/-- The requests of an attempt get their own completions. -/
theorem own_attempt (site : Site) (id : FileId) (hq : s.engine.waiting = []) :
    (s.attempt site id).Own := by
  have hread : (s.reading site id).Own := Engine.own_errand hq
  have hwrite : ∀ n, ((s.afterRead site id).writing n).Own := fun n =>
    Engine.own_errand (Engine.waiting_runOne hq)
  rcases h : (s.reading site id).gives (s.connection.chunkLength site) with _ | _
  · rw [attempt, if_neg (by simp [h])]
    refine ⟨hread, fun _ hw => absurd hw (Option.not_mem_none _), ?_, fun hmoved => ?_⟩
    · exact Nat.le_trans hread.accepted_le (by decide)
    · exact absurd hmoved (by simp [Attempt.moved])
  · rw [attempt, if_pos h]
    have hone := hread.accepted_of_ok _ (Errand.gives_iff.1 h)
    have hwrite := hwrite (s.connection.chunkLength site)
    refine ⟨hread, fun write hw => Option.some.inj hw ▸ hwrite, ?_, fun hmoved => ?_⟩
    · show (s.reading site id).accepted + _ ≤ 2
      rw [hone]
      exact Nat.add_le_add_left hwrite.accepted_le 1
    · show (s.reading site id).accepted + _ = 2
      rw [hone]
      exact congrArg (1 + ·) (hwrite.accepted_of_ok _ (Errand.gives_iff.1 hmoved))

/-- To move a chunk of an open file is an attempt. -/
theorem attempted_sendChunk {id : FileId} (hfile : s.connection.file = some id)
    (hq : s.engine.waiting = []) :
    Attempted s (s.sendChunk site).2 (wish (s.sendChunk site).1 = .close) [s.attempt site id] := by
  have hengine : (s.afterRead site id).engine =
      s.engine.spend 1 (s.reading site id).accepted := Engine.engine_runOne hq
  have hown := own_attempt site id hq
  rcases h : (s.reading site id).gives (s.connection.chunkLength site) with _ | _
  · obtain ⟨failure, hsend⟩ := sendChunk_of_unfilled hfile h
    rw [attempt, if_neg (by simp [h])] at hown ⊢
    rw [hsend]
    refine .single ⟨1, hengine⟩ hown (fun hmoved => ?_) fun _ => ⟨rfl, rfl⟩
    exact absurd hmoved (by simp [Attempt.moved])
  · obtain ⟨hspent, hmoved, hfailed⟩ :=
      writeChunk_spends (s := s.afterRead site id) (Engine.waiting_runOne hq)
        (s.connection.chunkLength site)
    rw [attempt, if_pos h] at hown ⊢
    rw [sendChunk_of_filled hfile h]
    refine .single ⟨2, ?_⟩ hown hmoved hfailed
    rw [hspent, hengine, Engine.spend_spend]
    rfl

end

section

variable [Socket S] (site : Site)

/-- A handler makes the attempt that is due to it, and does nothing else with the engine. -/
theorem attempted_handle (signal : Signal) {s : Session S} (hq : s.engine.waiting = []) :
    Attempted s (s.handle site signal).2 ((s.handle site signal).1 = .close)
      (s.attempt? site signal).toList := by
  rcases signal with hangup | _
  · -- Readability leaves the engine alone.
    exact .nil (onReadable_frame (f := fun _ => ()) (fun _ _ => rfl) site hangup s).1
      (intake_readable site hangup s).chunks_eq
  · rw [handle, onWritable, attempt?]
    by_cases hp : s.connection.phase = .movingChunks
    · have hwritable : s.writable site = s.sendChunk site := by rw [writable, hp]
      rw [if_pos hp, hwritable]
      rcases hfile : s.connection.file with _ | id
      · -- No document is open, so there is nothing to attempt.
        have hsend : s.sendChunk site = (.ok .write, s.complete) := by rw [sendChunk, hfile]
        rw [hsend]
        exact .nil rfl rfl
      · -- A chunk is due.
        obtain ⟨hengine, hchunks, hown, hlast⟩ := attempted_sendChunk hfile hq
        refine ⟨?_, ?_, hown, ?_⟩
        · rw [finish_engine]
          exact hengine
        · rw [finish_connection]
          exact hchunks
        · rw [finish_fst]
          exact hlast
    · -- In any other phase, writability leaves the engine alone.
      obtain ⟨w, ho⟩ := output_onWritable site s
      rw [if_neg hp]
      refine .nil ?_ (ho.chunks_eq hp)
      rw [finish_engine]
      exact writable_engine hp

/-- The attempts of handlers that are called one after the other. -/
def attempts : List Signal → Session S → List Attempt
  | [], _ => []
  | signal :: rest, s =>
    (s.attempt? site signal).toList ++
      if (s.handle site signal).1 = .close then [] else attempts rest (s.handle site signal).2

/-- Where handlers are called one after the other, the attempt that is due to each is made. -/
theorem attempted_callAll (signals : List Signal) {s : Session S} (hq : s.engine.waiting = []) :
    Attempted s (s.callAll site signals).2 (wishOf (s.callAll site signals).1 = some .close)
      (attempts site signals s) := by
  induction signals generalizing s with
  | nil => exact .nil rfl rfl
  | cons signal rest ih =>
    have hcall := attempted_handle site signal hq
    rw [attempts]
    by_cases hclose : (s.handle site signal).1 = .close
    · rw [callAll_cons_of_close hclose, if_pos hclose, List.append_nil]
      exact hcall.mono fun _ => rfl
    · rw [callAll_cons_of_ne hclose, if_neg hclose]
      refine hcall.append hclose ((ih (waiting_handle site signal hq)).mono fun hwish => ?_)
      -- A handler that is called behind this one is the one that counts.
      rcases hcalls : ((s.handle site signal).2.callAll site rest).1 with _ | ⟨call, calls⟩
      · rw [hcalls] at hwish
        cases hwish
      · rw [hcalls] at hwish
        rw [wishOf, List.getLast?_cons_cons]
        exact hwish

/-- No attempt is made where no handler is called. -/
theorem attempts_of_nil {signals : List Signal} {s : Session S}
    (h : (s.callAll site signals).1 = []) : attempts site signals s = [] := by
  rcases signals with _ | ⟨signal, rest⟩
  · rfl
  · by_cases hclose : (s.handle site signal).1 = .close
    · rw [callAll_cons_of_close hclose] at h
      cases h
    · rw [callAll_cons_of_ne hclose] at h
      cases h

end

end Session

end FileServer
