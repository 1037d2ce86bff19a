import FileServer.Proofs.Socket.Recorded
import FileServer.Transfer.FileBody
import FileServer.Transfer.Overlapped
import FileServer.Transfer.SendBuffer

/-!
# What transfers deliver

Three mechanisms put bytes on a socket, and each is told here by what a recorded
socket has taken afterwards, whatever the inner socket does:

* `SendBuffer.flush_sent`: a flush delivers the next bytes of the buffer, and counts
  exactly those;
* `FileBody.run_sent`: a run delivers what the file holds from the position on, and
  moves the position past exactly those bytes;
* `Engine.writeFrom_sent`: an overlapped write delivers the front of what it is
  given, as much as it reports.

The engine reports on the request at hand only if no completion of another waits,
which is how every request of its own leaves it (`Engine.waiting_runOne`).
-/

namespace FileServer

variable {S : Type}

/-! ### Headers -/

namespace SendBuffer

/-- The buffer with so many more bytes taken. -/
def advance (b : SendBuffer) (count : Nat) : SendBuffer := { b with written := b.written + count }

@[simp] theorem content_advance (b : SendBuffer) (count : Nat) :
    (b.advance count).content = b.content := rfl

@[simp] theorem written_advance (b : SendBuffer) (count : Nat) :
    (b.advance count).written = b.written + count := rfl

@[simp] theorem remaining_advance (b : SendBuffer) (count : Nat) :
    (b.advance count).remaining = b.remaining - count := Nat.sub_add_eq _ _ _

@[simp] theorem length_rest (b : SendBuffer) : b.rest.length = b.remaining := List.length_drop

theorem rest_ne_nil {b : SendBuffer} (h : 0 < b.remaining) : b.rest ≠ [] :=
  List.ne_nil_of_length_pos (by rwa [length_rest])

theorem rest_advance (b : SendBuffer) (count : Nat) :
    (b.advance count).rest = b.rest.drop count := List.drop_drop.symm

/-- What was taken, before and now. -/
theorem take_written_advance (b : SendBuffer) (count : Nat) :
    b.content.take (b.written + count) = b.content.take b.written ++ b.rest.take count :=
  List.take_add

/-- A flush delivers bytes from the front of the rest, counts just those, and is
    done when none is left. -/
theorem flush_sent [Sink S] (b : SendBuffer) (s : Recorded S) :
    ∃ k ≤ b.remaining, (b.flush s).2.1 = b.advance k ∧
      (b.flush s).2.2.sent = s.sent ++ b.rest.take k ∧
      ((b.flush s).1 = .ok .done ↔ k = b.remaining) := by
  fun_induction flush b s with
  | case1 b s h s' hs =>
    -- The socket takes nothing.
    refine ⟨0, Nat.zero_le _, rfl, Recorded.sent_send hs, ?_⟩
    simp only [reduceCtorEq, remaining, false_iff]
    omega
  | case2 b s h n s' hs ih =>
    -- The flush goes on with the next `k` bytes.
    obtain ⟨k, hk, hb, hsent, hdone⟩ := ih
    have hn := Sink.send_took_le s b.rest (n + 1) (by rw [hs])
    have hrem : (b.advance (n + 1)).remaining = b.remaining - (n + 1) := remaining_advance _ _
    rw [length_rest] at hn
    change k ≤ (b.advance (n + 1)).remaining at hk
    refine ⟨n + 1 + k, by omega, ?_, ?_, ?_⟩
    · rw [hb]
      simp only [advance, Nat.add_assoc]
    · rw [hsent, Recorded.sent_send hs, List.append_assoc, List.take_add]
      congr 2
      exact congrArg (List.take k) (rest_advance b (n + 1))
    · rw [hdone]
      change k = (b.advance (n + 1)).remaining ↔ _
      omega
  | case3 b s h s' hs ih =>
    -- It is interrupted.
    obtain ⟨k, hk, hb, hsent, hdone⟩ := ih
    refine ⟨k, hk, hb, ?_, hdone⟩
    rw [hsent, Recorded.sent_send hs]
    simp only [Sending.part, List.append_nil]
  | case4 b s h s' hs =>
    -- It would block.
    refine ⟨0, Nat.zero_le _, rfl, Recorded.sent_send hs, ?_⟩
    simp only [Except.ok.injEq, reduceCtorEq, remaining, false_iff]
    omega
  | case5 b s h e s' hs =>
    -- It fails.
    refine ⟨0, Nat.zero_le _, rfl, Recorded.sent_send hs, ?_⟩
    simp only [reduceCtorEq, remaining, false_iff]
    omega
  | case6 b s h =>
    -- Nothing is left to offer.
    refine ⟨0, Nat.zero_le _, rfl, (List.append_nil _).symm, ?_⟩
    simp only [remaining, true_iff]
    omega

end SendBuffer

/-! ### Bodies straight from a file -/

namespace FileBody

/-- The body with so many more bytes carried. -/
def advance (body : FileBody) (count : Nat) : FileBody :=
  ⟨body.offset + count, body.remaining - count⟩

@[simp] theorem offset_advance (body : FileBody) (count : Nat) :
    (body.advance count).offset = body.offset + count := rfl

@[simp] theorem remaining_advance (body : FileBody) (count : Nat) :
    (body.advance count).remaining = body.remaining - count := rfl

theorem advance_advance (body : FileBody) (m n : Nat) :
    (body.advance m).advance n = body.advance (m + n) := by
  simp only [advance, Nat.add_assoc, Nat.sub_add_eq]

@[simp] theorem length_slice (file : Bytes) (offset count : Nat) :
    (slice file offset count).length = min count (file.length - offset) := by
  rw [slice, List.length_take, List.length_drop]

theorem slice_prefix (file : Bytes) (offset count : Nat) :
    slice file offset count <+: file.drop offset := List.take_prefix _ _

/-- What lies in two ranges, one behind the other. -/
theorem slice_add (file : Bytes) (offset m n : Nat) :
    slice file offset (m + n) = slice file offset m ++ slice file (offset + m) n := by
  rw [slice, List.take_add, List.drop_drop, slice, slice]

/-- A front part of what lies in a range lies in a shorter one. -/
theorem take_slice (file : Bytes) (offset count n : Nat) :
    (slice file offset count).take n = slice file offset (min n count) := by
  rw [slice, List.take_take, slice]

theorem carry_sent [Sink S] {s s' : Recorded S} {part : Bytes} {r : Sending}
    (h : carry s part = (r, s')) : s'.sent = s.sent ++ r.part part := by
  rw [carry] at h
  split at h
  · obtain ⟨rfl, rfl⟩ := Prod.mk.inj h
    exact (List.append_nil _).symm
  · exact Recorded.sent_send h

theorem step_sent [Sink S] {s s' : Recorded S} {file : Bytes} {offset count : Nat} {r : Sending}
    (h : step s file offset count = (r, s')) :
    s'.sent = s.sent ++ r.part (slice file offset count) := by
  rw [step] at h
  split at h
  · obtain ⟨rfl, rfl⟩ := Prod.mk.inj h
    exact (List.append_nil _).symm
  split at h
  · obtain ⟨rfl, rfl⟩ := Prod.mk.inj h
    exact (List.append_nil _).symm
  split at h
  · obtain ⟨rfl, rfl⟩ := Prod.mk.inj h
    exact (List.append_nil _).symm
  · exact carry_sent h

/-- No more is taken than the file holds. -/
theorem step_took_le_length [Sink S] {s s' : S} {file : Bytes} {offset count n : Nat}
    (h : step s file offset count = (.took n, s')) : n ≤ (slice file offset count).length := by
  rw [step] at h
  split at h
  · simp at h
  split at h
  · simp at h
  split at h
  · simp at h
  · exact carry_took_le (congrArg Prod.fst h)

/-- The socket is only asked to take something, so it is full only where the file
    goes on. -/
theorem lt_length_of_step_wouldBlock [Sink S] {s s' : S} {file : Bytes} {offset count : Nat}
    (h : step s file offset count = (.wouldBlock, s')) : offset < file.length := by
  rw [step] at h
  split at h
  · simp at h
  split at h
  · simp at h
  split at h
  · simp at h
  rw [carry] at h
  split at h
  · simp at h
  · rename_i hne
    rw [List.isEmpty_iff, ← List.length_eq_zero_iff, length_slice] at hne
    omega

/-- A run delivers what the file holds from the position on and moves the position
    past just those bytes. It is done when nothing remains, and only gives up for
    the moment where the file goes on. -/
theorem run_sent [Sink S] (file : Bytes) (body : FileBody) (s : Recorded S) :
    ∃ k ≤ body.remaining, (run file body s).2.1 = body.advance k ∧
      (run file body s).2.2.sent = s.sent ++ slice file body.offset k ∧
      (slice file body.offset k).length = k ∧
      ((run file body s).1 = .ok .done ↔ k = body.remaining) ∧
      ((run file body s).1 = .ok .blocked → body.offset + k < file.length) := by
  fun_induction run file body s with
  | case1 body s h s' hs =>
    -- Nothing is carried.
    refine ⟨0, Nat.zero_le _, rfl, step_sent hs, rfl, ?_, ?_⟩
    · simp only [reduceCtorEq, false_iff]
      omega
    · simp
  | case2 body s h n s' hs ih =>
    -- A part is carried, and the run goes on behind it.
    obtain ⟨k, hk, hb, hsent, hlen, hdone, hblocked⟩ := ih
    change k ≤ body.remaining - (n + 1) at hk
    have hn := step_took_le_length hs
    have hcount : n + 1 ≤ min body.remaining requestLimit :=
      Nat.le_trans hn (length_slice_le _ _ _)
    have hstep := step_sent hs
    -- The bytes of this step are those of the range up to where the rest begins.
    rw [Sending.part, take_slice, Nat.min_eq_left hcount] at hstep
    refine ⟨n + 1 + k, by omega, ?_, ?_, ?_, ?_, ?_⟩
    · rw [hb]
      exact advance_advance body (n + 1) k
    · rw [hsent, hstep, List.append_assoc, ← slice_add]
    · rw [slice_add, List.length_append, hlen]
      rw [length_slice] at hn ⊢
      omega
    · rw [hdone]
      change k = body.remaining - (n + 1) ↔ _
      omega
    · intro hb
      rw [← Nat.add_assoc]
      exact hblocked hb
  | case3 body s h s' hs ih =>
    -- It is interrupted.
    obtain ⟨k, hk, hb, hsent, hrest⟩ := ih
    refine ⟨k, hk, hb, ?_, hrest⟩
    rw [hsent, step_sent hs]
    simp only [Sending.part, List.append_nil]
  | case4 body s h s' hs =>
    -- The socket would block.
    refine ⟨0, Nat.zero_le _, rfl, step_sent hs, rfl, ?_, fun _ => ?_⟩
    · simp only [Except.ok.injEq, reduceCtorEq, false_iff]
      omega
    · exact lt_length_of_step_wouldBlock hs
  | case5 body s h e s' hs =>
    -- It fails.
    refine ⟨0, Nat.zero_le _, rfl, step_sent hs, rfl, ?_, ?_⟩
    · simp only [reduceCtorEq, false_iff]
      omega
    · simp
  | case6 body s h =>
    -- Nothing remains.
    refine ⟨0, Nat.zero_le _, rfl, (List.append_nil _).symm, rfl, ?_, ?_⟩
    · simp only [true_iff]
      omega
    · simp

end FileBody

/-! ### Overlapped transfers -/

namespace Verdict

variable {W : Type}

/-- What the verdict reports. -/
def result : Verdict W → Except SystemError Nat
  | refused e => .error e
  | finished r _ => r

/-- The world after the verdict. -/
def worldAfter (w : W) : Verdict W → W
  | refused _ => w
  | finished _ w => w

end Verdict

namespace Engine

variable {R W : Type} {carry : R → W → Verdict W} {e : Engine} {w : W} {transfer : R} {n : Nat}

/-- Whatever waits in the engine, the request is carried out once. -/
theorem world_runOne :
    (e.runOne carry w transfer n).world = (carry transfer w).worldAfter w := by
  cases h : carry transfer w <;> simp [runOne, submit, accept, h, Verdict.worldAfter]

/-- Where no completion waits, a request gets its own. -/
theorem result_runOne (he : e.waiting = []) :
    (e.runOne carry w transfer n).result = (carry transfer w).result := by
  cases h : carry transfer w <;>
    simp [runOne, submit, accept, h, Verdict.result, enqueue, takeTag, he, await]

/-- A request leaves no completion behind where none waited. -/
theorem waiting_runOne (he : e.waiting = []) :
    (e.runOne carry w transfer n).engine.waiting = [] := by
  cases h : carry transfer w <;>
    simp [runOne, submit, accept, h, enqueue, takeTag, he, await]

/-- A read that reports the whole range has put just what the file holds there to the front of
    the buffer. -/
theorem readAt_filled (he : e.waiting = []) {t : FileTree} {r : FileRange} {buffer : LazyBytes}
    (h : (e.readAt t r buffer).result = .ok r.length) :
    ∃ content, t.content? r.file = some content ∧
      (FileBody.slice content r.offset r.length).length = r.length ∧
      (e.readAt t r buffer).world.toBytes.take r.length =
        FileBody.slice content r.offset r.length := by
  rw [readAt, result_runOne he, readFile] at h
  rw [readAt, world_runOne, readFile]
  split at h
  · simp [Verdict.result] at h
  rename_i stored hstored
  split at h
  · simp [Verdict.result] at h
  rename_i hrange
  let part := stored.slice r.offset (FileBody.granted r.length)
  have hlength : part.length = r.length := Except.ok.inj h
  -- The whole range was granted, or less of it would have come.
  have hmost : part.length ≤ FileBody.granted r.length := Nat.min_le_left _ _
  have hgranted : FileBody.granted r.length = r.length :=
    Nat.le_antisymm (Nat.min_le_left _ _) (hlength ▸ hmost)
  have hpart : part.toBytes = FileBody.slice stored.toBytes r.offset r.length := by
    rw [LazyBytes.toBytes_slice, hgranted, FileBody.slice]
  refine ⟨stored.toBytes, FileTree.content?_of_stored hstored, ?_, ?_⟩
  · rw [← hpart, LazyBytes.length_toBytes, hlength]
  · rw [if_neg hrange]
    show (part.toBytes ++ buffer.toBytes.drop part.length).take r.length = _
    rw [← hpart, List.take_left' (by rw [LazyBytes.length_toBytes, hlength])]

/-- A write delivers the front of what it is given: as much as it reports, and
    nothing if it fails. -/
theorem writeFrom_sent [Sink S] (e : Engine) (s : Recorded S) (bs : Bytes) :
    ∃ w, (e.writeFrom s bs).world.sent = s.sent ++ w ∧ w <+: bs ∧
      (e.waiting = [] → match (e.writeFrom s bs).result with
        | .ok m => w = bs.take m ∧ m ≤ bs.length
        | .error _ => w = []) := by
  rw [writeFrom, world_runOne]
  cases hfault : Sink.fault s with
  | some error =>
    -- The socket is broken.
    refine ⟨[], ?_, List.nil_prefix, fun he => ?_⟩
    · simp [writeSocket, hfault, Verdict.worldAfter]
    · simp [result_runOne he, writeSocket, hfault, Verdict.result]
  | none =>
    -- It is offered what one request can move.
    obtain ⟨r, s', hs⟩ : ∃ r s', Sink.send s (bs.take FileBody.transferLimit) = (r, s') :=
      ⟨_, _, rfl⟩
    refine ⟨r.part (bs.take FileBody.transferLimit), ?_,
      (r.part_prefix _).trans (List.take_prefix _ _), fun he => ?_⟩
    · simpa [writeSocket, hfault, hs, Verdict.worldAfter] using Recorded.sent_send hs
    · rw [result_runOne he]
      cases r with
      | took n =>
        have hn : n ≤ (bs.take FileBody.transferLimit).length :=
          Sink.send_took_le s _ n (by rw [hs])
        rw [List.length_take] at hn
        simp only [writeSocket, hfault, hs, Verdict.result, Sending.transferred, Sending.part]
        rw [List.take_take, Nat.min_eq_left (by omega)]
        exact ⟨rfl, by omega⟩
      | _ => simp [writeSocket, hfault, hs, Verdict.result, Sending.transferred, Sending.part]

end Engine

/-! ### Sinks that take all at once -/

/-- Nothing is left to push out. -/
theorem SendBuffer.flush_of_done [Sink S] {b : SendBuffer} (s : S) (h : b.remaining = 0) :
    b.flush s = (.ok .done, b, s) := by
  rw [flush, dif_neg (Nat.not_lt.2 (Nat.le_of_sub_eq_zero h))]

/-- A sink that takes all of the rest ends the flush. -/
theorem SendBuffer.flush_of_took [Sink S] {b : SendBuffer} {s s' : S}
    (hs : Sink.send s b.rest = (.took b.remaining, s')) (h : 0 < b.remaining) :
    b.flush s = (.ok .done, b.advance b.remaining, s') := by
  rw [flush, dif_pos (Nat.lt_of_sub_pos h)]
  split
  · rename_i heq
    obtain ⟨hzero, -⟩ := Prod.mk.inj (heq.symm.trans hs)
    exact absurd (Sending.took.inj hzero).symm (Nat.ne_of_gt h)
  · rename_i n _ heq
    obtain ⟨hn, rfl⟩ := Prod.mk.inj (heq.symm.trans hs)
    have hn' : n + 1 = b.remaining := Sending.took.inj hn
    rw [hn']
    refine flush_of_done (b := b.advance b.remaining) _ ?_
    rw [remaining_advance, Nat.sub_self]
  all_goals
    rename_i heq
    cases heq.symm.trans hs

/-- Nothing remains to be carried. -/
theorem FileBody.run_of_done [Sink S] {file : Bytes} {body : FileBody} (s : S)
    (h : body.remaining = 0) : run file body s = (.ok .done, body, s) := by
  rw [run, dif_neg (by omega)]

/-- One round of a run, by what the request answers. -/
theorem FileBody.run_of_pos [Sink S] {file : Bytes} {body : FileBody} {s : S}
    (h : 0 < body.remaining) :
    run file body s =
      match step s file body.offset (min body.remaining requestLimit) with
      | (.took 0, s') => (.error endedEarly, body, s')
      | (.took (n + 1), s') => run file (body.advance (n + 1)) s'
      | (.interrupted, s') => run file body s'
      | (.wouldBlock, s') => (.ok .blocked, body, s')
      | (.failed e, s') => (.error e, body, s') := by
  -- The branches of `run` hold proofs of what was answered, which stand in the way of rewriting
  -- the answer.
  rw [run, dif_pos h]
  split <;> simp_all [advance]

/-- A request for bytes that the file holds offers them to the socket. -/
theorem FileBody.step_of_held [Sink S] {s : S} {file : Bytes} {offset count : Nat}
    (hfault : Sink.fault s = none) (hcount : 0 < count) (hlen : offset + count ≤ file.length)
    (hsize : file.length ≤ FileTree.maxSize) :
    step s file offset count = Sink.send s (slice file offset count) := by
  have hlimit : FileTree.maxSize < positionLimit := by decide
  have hpart : ¬(slice file offset count).isEmpty := by
    rw [List.isEmpty_iff_length_eq_zero, length_slice]
    omega
  rw [step, if_neg (by omega), hfault]
  dsimp only
  rw [if_neg (by omega), carry, if_neg hpart]

/-- A socket that takes all that remains ends the run. -/
theorem FileBody.run_of_took [Sink S] {file : Bytes} {body : FileBody} {s s' : S}
    (hs : step s file body.offset (min body.remaining requestLimit) = (.took body.remaining, s'))
    (h : 0 < body.remaining) :
    run file body s = (.ok .done, body.advance body.remaining, s') := by
  obtain ⟨n, hn⟩ := Nat.exists_eq_succ_of_ne_zero (Nat.ne_of_gt h)
  rw [run_of_pos h, hs]
  simp only [hn]
  exact run_of_done _ (by rw [remaining_advance, hn, Nat.sub_self])

/-! ### Sinks that answer alike -/

/-- A flush goes the same way on sinks that give the same answers. -/
theorem SendBuffer.flush_map {T : Type} [Sink T] [Sink S] {f : T → S}
    (hf : ∀ t bs, Sink.send (f t) bs = ((Sink.send t bs).1, f (Sink.send t bs).2))
    (b : SendBuffer) (t : T) :
    b.flush (f t) = ((b.flush t).1, (b.flush t).2.1, f (b.flush t).2.2) := by
  have hf' : ∀ {t t' bs r}, Sink.send t bs = (r, t') → Sink.send (f t) bs = (r, f t') :=
    fun {t t' bs r} h => by rw [hf, h]
  fun_induction flush b t with
  | case6 b t h => rw [flush, dif_neg h]
  | _ b t h =>
    rw [flush, dif_pos h]
    split <;> simp_all [hf' ‹_›]

/-! ### What sending leaves alone -/

section

variable [Sink S] {α : Type} {f : S → α} (hf : ∀ s bs, f (Sink.send s bs).2 = f s)

include hf

theorem SendBuffer.flush_frame (b : SendBuffer) (s : S) : f (b.flush s).2.2 = f s := by
  have hf' : ∀ {s s' bs r}, Sink.send s bs = (r, s') → f s' = f s := fun {s s' bs r} h => by
    rw [← hf s bs, h]
  fun_induction flush b s with
  | case1 b s h s' hs | case4 b s h s' hs | case5 b s h e s' hs => exact hf' hs
  | case2 b s h n s' hs ih => exact ih.trans (hf' hs)
  | case3 b s h s' hs ih => exact ih.trans (hf' hs)
  | case6 => rfl

theorem FileBody.step_frame (s : S) (file : Bytes) (offset count : Nat) :
    f (step s file offset count).2 = f s := by
  rw [step]
  split
  · rfl
  split
  · rfl
  split
  · rfl
  rw [carry]
  split
  · rfl
  · exact hf _ _

theorem FileBody.run_frame (file : Bytes) (body : FileBody) (s : S) :
    f (run file body s).2.2 = f s := by
  have hf' : ∀ {s s' offset count r}, step s file offset count = (r, s') → f s' = f s :=
    fun {s s' offset count r} h => by rw [← step_frame hf s file offset count, h]
  fun_induction run file body s with
  | case1 b s h s' hs | case4 b s h s' hs | case5 b s h e s' hs => exact hf' hs
  | case2 b s h n s' hs ih => exact ih.trans (hf' hs)
  | case3 b s h s' hs ih => exact ih.trans (hf' hs)
  | case6 => rfl

theorem Engine.writeFrom_frame (e : Engine) (s : S) (bs : Bytes) :
    f (e.writeFrom s bs).world = f s := by
  rw [writeFrom, world_runOne, writeSocket]
  split
  · rfl
  · exact hf _ _

end

end FileServer
