import FileServer.Proofs.Transfer.Delivery

/-!
# Transfers that are taken up again

A machine holds the position and what remains of a transfer as two words of 64 bits
(`Counters`), and the kernel reads the position as a signed number. What may be relied on of a
kernel is a structure (`Kernel`): it takes no more than it is asked for and than the file holds,
and nothing in front of the file. All else is up to it, and to the socket.

`Kernel.run` repeats requests as `FileBody.run` does, on the two words, and comes to nothing where
one of them would leave its range. That it never does so, and what a series of such runs comes to
that go on with the same counters, is said in `Kernel.Series.resumes`. The transfers of
`FileBody.run` are those of one such kernel (`Kernel.run_ofSink`).
-/

namespace FileServer

open FileBody

/-- What may be relied on of a kernel that carries bytes of files to the sockets of a type. -/
structure Kernel (S : Type) where
  /-- A request to carry at most so many bytes of a file to a socket, from a position on. -/
  request : S → Bytes → Int → Nat → Sending × S
  /-- How many times in a row a request can still be cut short. -/
  signals : S → Nat
  /-- All that was put on a socket. -/
  sent : S → Bytes
  request_signals : ∀ s file position count,
    (request s file position count).1 = .interrupted →
      signals (request s file position count).2 < signals s
  /-- There is nothing in front of a file. -/
  request_negative : ∀ s file position count, position < 0 →
    ∃ e, (request s file position count).1 = .failed e
  /-- No more is carried than is asked for and than the file holds. -/
  request_took : ∀ s file position count n, (request s file position count).1 = .took n →
    n ≤ count ∧ n ≤ file.length - position.toNat
  /-- What is carried is what the file holds at the position, and nothing else is. -/
  request_sent : ∀ s file position count, sent (request s file position count).2 =
    sent s ++ (request s file position count).1.part (slice file position.toNat count)

/-- The counters of a transfer, as a machine holds them. -/
structure Counters where
  /-- Where in the file the next byte lies. -/
  offset : UInt64
  /-- How many bytes are still to go. -/
  remaining : UInt64

namespace Counters

/-- The position, as the kernel reads it. -/
def position (c : Counters) : Int := c.offset.toInt64.toInt

/-- How many bytes are asked for. -/
def count (c : Counters) : Nat := min c.remaining.toNat requestLimit

/-- The counters as numbers. -/
def body (c : Counters) : FileBody := ⟨c.offset.toNat, c.remaining.toNat⟩

/-- The counters with so many more bytes carried, if they can hold that. -/
def carry? (c : Counters) (n : Nat) : Option Counters :=
  if c.offset.toNat + n < UInt64.size ∧ n ≤ c.remaining.toNat then
    some ⟨c.offset + UInt64.ofNat n, c.remaining - UInt64.ofNat n⟩
  else none

variable {c c' : Counters} {n : Nat}

theorem positionLimit_eq : positionLimit = 9223372036854775808 := rfl

/-- Below half of its range a position is read as it is. -/
theorem position_of_lt (h : c.offset.toNat < positionLimit) : c.position = c.offset.toNat := by
  rw [position, Int64.toInt, UInt64.toBitVec_toInt64, BitVec.toInt_eq_toNat_of_lt]
  · rfl
  · show 2 * c.offset.toNat < 2 ^ 64
    rw [positionLimit_eq] at h
    omega

/-- From there on it is read as a negative one. -/
theorem position_neg (h : positionLimit ≤ c.offset.toNat) : c.position < 0 := by
  have hlt := c.offset.toNat_lt
  rw [position, Int64.toInt, UInt64.toBitVec_toInt64, BitVec.toInt_eq_toNat_cond]
  show (if 2 * c.offset.toNat < 2 ^ 64 then (c.offset.toNat : Int)
    else (c.offset.toNat : Int) - (2 ^ 64 : Nat)) < 0
  rw [positionLimit_eq] at h
  split
  · omega
  · omega

/-- What is carried leaves one counter for the other, and neither of them leaves its range. -/
theorem carry?_eq_some (h : c.carry? n = some c') :
    c'.offset.toNat = c.offset.toNat + n ∧ c'.remaining.toNat + n = c.remaining.toNat := by
  rw [carry?] at h
  split at h
  · rename_i hfits
    obtain rfl := Option.some.inj h
    have hlt := c.remaining.toNat_lt
    have hn : (UInt64.ofNat n).toNat = n := UInt64.toNat_ofNat_of_lt' (by omega)
    refine ⟨?_, ?_⟩
    · rw [UInt64.toNat_add, hn, Nat.mod_eq_of_lt hfits.1]
    · rw [UInt64.toNat_sub_of_le _ _ (UInt64.le_iff_toNat_le.2 (by omega)), hn]
      omega
  · cases h

theorem exists_carry? (hoffset : c.offset.toNat + n < UInt64.size)
    (hremaining : n ≤ c.remaining.toNat) : ∃ c', c.carry? n = some c' :=
  ⟨_, if_pos ⟨hoffset, hremaining⟩⟩

end Counters

namespace Kernel

variable {S : Type} (k : Kernel S) (file : Bytes)

/-- Carries what remains to the socket, as far as the socket takes it. Nothing comes of it if a
    counter leaves its range. -/
def run (c : Counters) (s : S) : Option (Except SystemError Progress × Counters × S) :=
  if _h : 0 < c.remaining.toNat then
    match _hs : k.request s file c.position c.count with
    | (.took 0, s') => some (.error endedEarly, c, s')
    | (.took (n + 1), s') =>
      match _hc : c.carry? (n + 1) with
      | none => none
      | some c' => run c' s'
    | (.interrupted, s') => run c s'
    | (.wouldBlock, s') => some (.ok .blocked, c, s')
    | (.failed e, s') => some (.error e, c, s')
  else some (.ok .done, c, s)
termination_by (c.remaining.toNat, k.signals s)
decreasing_by
  · apply Prod.Lex.left
    have := Counters.carry?_eq_some _hc
    omega
  · apply Prod.Lex.right
    have := k.request_signals s file c.position c.count (by rw [_hs])
    rwa [_hs] at this

variable {k file} {c c' : Counters} {s s' : S} {r : Except SystemError Progress}

/-- What is taken lies in the file, so that the counters can hold what comes out. -/
theorem carry?_of_took {n : Nat} (hfile : file.length < positionLimit)
    (hs : k.request s file c.position c.count = (.took (n + 1), s')) :
    c.position = c.offset.toNat ∧ n + 1 ≤ file.length - c.offset.toNat ∧
      ∃ c', c.carry? (n + 1) = some c' := by
  have hlt : c.offset.toNat < positionLimit := by
    refine Nat.not_le.1 fun hle => ?_
    obtain ⟨e, he⟩ := k.request_negative s file c.position c.count (Counters.position_neg hle)
    rw [hs] at he
    cases he
  have hposition := Counters.position_of_lt hlt
  obtain ⟨hcount, hheld⟩ := k.request_took s file c.position c.count (n + 1) (by rw [hs])
  have hle : c.count ≤ c.remaining.toNat := Nat.min_le_left _ _
  have hlimit : positionLimit < UInt64.size := by decide
  rw [hposition, Int.toNat_natCast] at hheld
  exact ⟨hposition, hheld, Counters.exists_carry? (by omega) (by omega)⟩

/-- A transfer has come from one place to another: what the file holds between them was put on
    the socket, and taken off what remains. -/
structure Moved (k : Kernel S) (file : Bytes) (c : Counters) (s : S) (c' : Counters) (s' : S) :
    Prop where
  offset_le : c.offset.toNat ≤ c'.offset.toNat
  /-- Where bytes were carried, the file reaches over them. -/
  held : c'.offset.toNat = c.offset.toNat ∨ c'.offset.toNat ≤ file.length
  sum : c'.offset.toNat + c'.remaining.toNat = c.offset.toNat + c.remaining.toNat
  sent : k.sent s' = k.sent s ++ slice file c.offset.toNat (c'.offset.toNat - c.offset.toNat)

/-- What one run comes to. -/
structure Carried (k : Kernel S) (file : Bytes) (c : Counters) (s : S)
    (r : Except SystemError Progress) (c' : Counters) (s' : S) : Prop
    extends Moved k file c s c' s' where
  done_iff : r = .ok .done ↔ c'.remaining.toNat = 0
  /-- The last request tells why the run stopped. -/
  blocked : r = .ok .blocked → ∃ t, (k.request t file c'.position c'.count).1 = .wouldBlock
  failed : ∀ e, r = .error e →
    e = endedEarly ∧ (∃ t, (k.request t file c'.position c'.count).1 = .took 0) ∨
      ∃ t, (k.request t file c'.position c'.count).1 = .failed e

/-- Where nothing is put on the socket, a transfer stays where it is. -/
theorem Moved.of_sent (h : k.sent s' = k.sent s) : k.Moved file c s c s' where
  offset_le := Nat.le_refl _
  held := .inl rfl
  sum := rfl
  sent := by
    rw [h, Nat.sub_self]
    exact (List.append_nil _).symm

/-- What is carried behind something else comes next in the file. -/
theorem Moved.trans {c'' : Counters} {s'' : S} (h : k.Moved file c s c' s')
    (h' : k.Moved file c' s' c'' s'') : k.Moved file c s c'' s'' := by
  have hle := h.offset_le
  have hle' := h'.offset_le
  have hheld := h.held
  have hheld' := h'.held
  have hsplit : c''.offset.toNat - c.offset.toNat =
      (c'.offset.toNat - c.offset.toNat) + (c''.offset.toNat - c'.offset.toNat) := by omega
  refine ⟨by omega, by omega, h'.sum.trans h.sum, ?_⟩
  rw [h'.sent, h.sent, hsplit, slice_add, Nat.add_sub_cancel' hle, List.append_assoc]

/-- What one request takes. -/
theorem Moved.of_took {n : Nat} (hfile : file.length < positionLimit)
    (hs : k.request s file c.position c.count = (.took (n + 1), s'))
    (hc : c.carry? (n + 1) = some c') : k.Moved file c s c' s' := by
  obtain ⟨hposition, hheld, -⟩ := carry?_of_took hfile hs
  obtain ⟨hoffset, hremaining⟩ := Counters.carry?_eq_some hc
  obtain ⟨hcount, -⟩ := k.request_took s file c.position c.count (n + 1) (by rw [hs])
  have hsent := k.request_sent s file c.position c.count
  rw [hs, hposition, Int.toNat_natCast, Sending.part, take_slice, Nat.min_eq_left hcount] at hsent
  refine ⟨by omega, .inr (by omega), by omega, ?_⟩
  rw [hoffset, Nat.add_sub_cancel_left]
  exact hsent

/-- A request of which nothing is taken puts nothing on the socket. -/
theorem sent_of_part {x : Sending} (hs : k.request s file c.position c.count = (x, s'))
    (hpart : ∀ bs, x.part bs = []) : k.sent s' = k.sent s := by
  have hsent := k.request_sent s file c.position c.count
  rw [hs, hpart] at hsent
  exact hsent.trans (List.append_nil _)

/-- A run that stops with a request of which nothing is taken, and so carries nothing. -/
theorem Carried.of_stop {x : Sending} (h : 0 < c.remaining.toNat)
    (hs : k.request s file c.position c.count = (x, s')) (hpart : ∀ bs, x.part bs = [])
    (hdone : r ≠ .ok .done) (hblocked : r = .ok .blocked → x = .wouldBlock)
    (hfailed : ∀ e, r = .error e → e = endedEarly ∧ x = .took 0 ∨ x = .failed e) :
    k.Carried file c s r c s' where
  toMoved := .of_sent (sent_of_part hs hpart)
  done_iff := by
    simp only [hdone, false_iff]
    omega
  blocked hr := ⟨s, by rw [hs, hblocked hr]⟩
  failed e hr := by
    refine (hfailed e hr).imp (fun he => ⟨he.1, s, ?_⟩) fun he => ⟨s, ?_⟩
    · rw [hs, he.2]
    · rw [hs, he]

/-- Nothing remains to be carried. -/
theorem Carried.of_done (h : c.remaining.toNat = 0) : k.Carried file c s (.ok .done) c s where
  toMoved := .of_sent rfl
  done_iff := by simp [h]
  blocked hr := by simp at hr
  failed e hr := by simp at hr

/-- A run goes on where something was carried before it. -/
theorem Carried.of_moved {c₁ : Counters} {s₁ : S} (hm : k.Moved file c s c₁ s₁)
    (h : k.Carried file c₁ s₁ r c' s') : k.Carried file c s r c' s' :=
  ⟨hm.trans h.toMoved, h.done_iff, h.blocked, h.failed⟩

/-- A run comes to something: neither of the counters leaves its range. -/
theorem exists_run (hfile : file.length < positionLimit) (c : Counters) (s : S) :
    ∃ r c' s', k.run file c s = some (r, c', s') ∧ k.Carried file c s r c' s' := by
  fun_induction run k file c s with
  | case1 c s h s' hs =>
    -- Nothing is carried.
    exact ⟨_, _, _, rfl, .of_stop h hs (fun _ => rfl) (by simp) (by simp) (by simp [eq_comm])⟩
  | case2 c s h n s' hs hc =>
    -- The counters do not hold what is carried, which is no more than the file holds.
    obtain ⟨-, -, c', hc'⟩ := carry?_of_took hfile hs
    cases hc.symm.trans hc'
  | case3 c s h n s₁ hs c₁ hc ih =>
    -- A part is carried, and the run goes on behind it.
    obtain ⟨r, c', s', hrun, hcarried⟩ := ih
    exact ⟨r, c', s', hrun, .of_moved (.of_took hfile hs hc) hcarried⟩
  | case4 c s h s₁ hs ih =>
    -- It is interrupted.
    obtain ⟨r, c', s', hrun, hcarried⟩ := ih
    exact ⟨r, c', s', hrun, .of_moved (.of_sent (sent_of_part hs fun _ => rfl)) hcarried⟩
  | case5 c s h s' hs =>
    -- It would block.
    exact ⟨_, _, _, rfl, .of_stop h hs (fun _ => rfl) (by simp) (by simp) (by simp)⟩
  | case6 c s h e s' hs =>
    -- It fails.
    exact ⟨_, _, _, rfl, .of_stop h hs (fun _ => rfl) (by simp) (by simp) (by simp)⟩
  | case7 c s h => exact ⟨_, _, _, rfl, .of_done (Nat.eq_zero_of_not_pos h)⟩

/-! ### Any number of runs -/

variable (k file) in
/-- A series of runs that go on with the same counters. Between two of them nobody else puts
    anything on the socket. -/
inductive Series (c₀ : Counters) (s₀ : S) : Counters → S → Prop
  | start : Series c₀ s₀ c₀ s₀
  | waits {c : Counters} {s s' : S} : Series c₀ s₀ c s → k.sent s' = k.sent s → Series c₀ s₀ c s'
  | run {c c' : Counters} {s s' : S} {r : Except SystemError Progress} : Series c₀ s₀ c s →
      k.run file c s = some (r, c', s') → Series c₀ s₀ c' s'

variable {c₀ : Counters} {s₀ : S}

/-- A series has carried one piece of the file. -/
theorem Series.moved (hfile : file.length < positionLimit) (h : k.Series file c₀ s₀ c s) :
    k.Moved file c₀ s₀ c s := by
  induction h with
  | start => exact .of_sent rfl
  | waits _ hsent ih => exact ih.trans (.of_sent hsent)
  | @run c c' s s' r _ hrun ih =>
    obtain ⟨r', c'', s'', hrun', hcarried⟩ := exists_run hfile c s
    obtain ⟨rfl, rfl, rfl⟩ : r' = r ∧ c'' = c' ∧ s'' = s' := by
      simpa using hrun'.symm.trans hrun
    exact ih.trans hcarried.toMoved

/-- A transfer that is to go on behind the end of the file is never done. -/
theorem Carried.not_done (h : k.Carried file c₀ s₀ r c s) (hpos : 0 < c₀.remaining.toNat)
    (hlong : file.length < c₀.offset.toNat + c₀.remaining.toNat) : r ≠ .ok .done := by
  intro hdone
  have hzero := h.done_iff.1 hdone
  have hsum := h.sum
  have hheld := h.held
  omega

/-- Where the socket keeps taking bytes, a run that is not done ends with the file, or as the
    kernel has it. -/
theorem Carried.ends (h : k.Carried file c₀ s₀ r c s) (hdone : r ≠ .ok .done)
    (htakes : ∀ t position count, (k.request t file position count).1 ≠ .wouldBlock)
    (hzero : ∀ t position count, 0 < count → (k.request t file position count).1 = .took 0 →
      file.length ≤ position.toNat) :
    (r = .error endedEarly ∧ file.length ≤ c.offset.toNat) ∨
      ∃ e t, r = .error e ∧ (k.request t file c.position c.count).1 = .failed e := by
  rcases r with e | _ | _
  · rcases h.failed e rfl with ⟨rfl, t, ht⟩ | ⟨t, ht⟩
    · -- Nothing was carried though something remains, so the file is at its end.
      refine .inl ⟨rfl, ?_⟩
      have hlt : c.offset.toNat < positionLimit := by
        refine Nat.not_le.1 fun hle => ?_
        obtain ⟨e, he⟩ := k.request_negative t file c.position c.count (Counters.position_neg hle)
        rw [ht] at he
        cases he
      have hcount : 0 < c.count := by
        have hpos : c.remaining.toNat ≠ 0 := fun hz => hdone (h.done_iff.2 hz)
        have hlimit : 0 < requestLimit := by decide
        rw [Counters.count]
        omega
      have hle := hzero t _ _ hcount ht
      rwa [Counters.position_of_lt hlt, Int.toNat_natCast] at hle
    · -- The kernel failed.
      exact .inr ⟨e, t, rfl, ht⟩
  · exact absurd rfl hdone
  · obtain ⟨t, ht⟩ := h.blocked rfl
    exact absurd ht (htakes t _ _)

/-! ### The kernel that runs -/

/-- The kernel that `FileBody.step` is, whatever the sockets do. -/
def ofSink (S : Type) [Sink S] : Kernel (Recorded S) where
  request s file position count :=
    if position < 0 then (.failed .invalid, s) else step s file position.toNat count
  signals := Sink.signals
  sent := Recorded.sent
  request_signals s file position count h := by
    split at h
    · cases h
    · rename_i hpos
      rw [if_neg hpos]
      exact step_signals h
  request_negative s file position count h := ⟨.invalid, by rw [if_pos h]⟩
  request_took s file position count n h := by
    split at h
    · cases h
    · have hn := step_took_le_length (Prod.ext h rfl)
      rwa [length_slice, Nat.le_min] at hn
  request_sent s file position count := by
    split
    · exact (List.append_nil _).symm
    · exact step_sent rfl

/-- A position that is read as a negative one lies behind all that can be asked for. -/
theorem request_ofSink [Sink S] (file : Bytes) (c : Counters) (s : Recorded S) :
    (ofSink S).request s file c.position c.count =
      step s file c.body.offset (min c.body.remaining requestLimit) := by
  rcases Nat.lt_or_ge c.offset.toNat positionLimit with hlt | hle
  · show (if c.position < 0 then (.failed .invalid, s) else step s file _ _) = _
    rw [Counters.position_of_lt hlt, if_neg (by omega), Int.toNat_natCast]
    rfl
  · show (if c.position < 0 then (.failed .invalid, s) else step s file _ _) = _
    have hle' : positionLimit ≤ c.body.offset := hle
    rw [if_pos (Counters.position_neg hle), step, if_pos (Nat.le_trans hle' (Nat.le_add_right _ _))]

/-- What comes of it on two words comes of it on numbers. -/
theorem run_ofSink [Sink S] {s s' : Recorded S} (h : (ofSink S).run file c s = some (r, c', s')) :
    FileBody.run file c.body s = (r, c'.body, s') := by
  fun_induction run (ofSink S) file c s with
  | case1 c s hpos s₁ hs | case5 c s hpos s₁ hs | case6 c s hpos e s₁ hs =>
    -- The run stops.
    rw [request_ofSink] at hs
    obtain ⟨rfl, rfl, rfl⟩ : _ = r ∧ c = c' ∧ s₁ = s' := by simpa using h
    rw [FileBody.run_of_pos hpos, hs]
  | case2 c s hpos n s₁ hs hc => cases h
  | case3 c s hpos n s₁ hs c₁ hc ih =>
    -- A part is carried, and the counters hold it.
    rw [request_ofSink] at hs
    obtain ⟨hoffset, hremaining⟩ := Counters.carry?_eq_some hc
    have hbody : c.body.advance (n + 1) = c₁.body := by
      rw [advance, Counters.body, Counters.body, hoffset, ← hremaining, Nat.add_sub_cancel]
    rw [FileBody.run_of_pos hpos, hs]
    dsimp only
    rw [hbody]
    exact ih h
  | case4 c s hpos s₁ hs ih =>
    -- It is interrupted.
    rw [request_ofSink] at hs
    rw [FileBody.run_of_pos hpos, hs]
    exact ih h
  | case7 c s hpos =>
    -- Nothing remains.
    obtain ⟨rfl, rfl, rfl⟩ : _ = r ∧ c = c' ∧ s = s' := by simpa using h
    exact FileBody.run_of_done _ (Nat.eq_zero_of_not_pos hpos)

/-- Any series of runs on the same counters is one transfer. Neither counter leaves its range, what
    is carried is what the file holds between the first position and the last, a run is done just if
    nothing remains, and none is done that is to go on behind the end of the file. -/
theorem Series.resumes (hfile : file.length < positionLimit) (h : k.Series file c₀ s₀ c s) :
    k.Moved file c₀ s₀ c s ∧
    (∃ r c' s', k.run file c s = some (r, c', s') ∧ k.Carried file c s r c' s' ∧
      (0 < c₀.remaining.toNat → file.length < c₀.offset.toNat + c₀.remaining.toNat →
        r ≠ .ok .done ∧
        ((∀ t position count, (k.request t file position count).1 ≠ .wouldBlock) →
          (∀ t position count, 0 < count → (k.request t file position count).1 = .took 0 →
            file.length ≤ position.toNat) →
          (r = .error endedEarly ∧ file.length ≤ c'.offset.toNat) ∨
            ∃ e t, r = .error e ∧ (k.request t file c'.position c'.count).1 = .failed e))) ∧
    ∀ {T : Type} [Sink T] (c : Counters) (t : Recorded T), ∃ c',
      (ofSink T).run file c t =
        some ((FileBody.run file c.body t).1, c', (FileBody.run file c.body t).2.2) ∧
      c'.body = (FileBody.run file c.body t).2.1 := by
  refine ⟨h.moved hfile, ?_, fun c t => ?_⟩
  · -- The next run, taken together with those before it.
    obtain ⟨r, c', s', hrun, hcarried⟩ := exists_run hfile c s
    refine ⟨r, c', s', hrun, hcarried, fun hpos hlong => ?_⟩
    have hall := hcarried.of_moved (h.moved hfile)
    have hdone := hall.not_done hpos hlong
    exact ⟨hdone, hall.ends hdone⟩
  · -- With machine counters a run does what it does without.
    obtain ⟨r, c', t', hrun, -⟩ := (ofSink _).exists_run hfile c t
    rw [run_ofSink hrun]
    exact ⟨c', hrun, rfl⟩

end Kernel

/-! ### A file that is shorter than was announced -/

/-- A sink that takes one byte of each offer. -/
structure Sip where

namespace Sip

instance : Sink Sip where
  send s bs := (.took (min 1 bs.length), s)
  fault _ := none
  signals _ := 0
  send_took_le s bs n h := by
    obtain rfl := Sending.took.inj h
    exact Nat.min_le_right _ _
  send_signals s bs h := by cases h

/-- Three bytes, -/
def file : Bytes := [1, 2, 3]

/-- four of which are announced, from the second one on. -/
def announced : Counters := ⟨1, 4⟩

theorem run_announced : FileBody.run file announced.body (⟨⟨⟩, []⟩ : Recorded Sip) =
    (.error endedEarly, ⟨3, 2⟩, ⟨⟨⟩, [2, 3]⟩) := by
  rw [FileBody.run_of_pos (by decide)]
  show FileBody.run file ⟨2, 3⟩ (⟨⟨⟩, [2]⟩ : Recorded Sip) = _
  rw [FileBody.run_of_pos (by decide)]
  show FileBody.run file ⟨3, 2⟩ (⟨⟨⟩, [2, 3]⟩ : Recorded Sip) = _
  rw [FileBody.run_of_pos (by decide)]
  rfl

theorem carry_eq (t : Recorded Sip) (part : Bytes) :
    (carry t part).1 = .took (min 1 part.length) := by
  rw [carry]
  split
  · rename_i hempty
    rw [List.isEmpty_iff.1 hempty]
    rfl
  · rfl

/-- What the kernel answers that carries bytes to such a sink. -/
theorem request_cases (file : Bytes) (t : Recorded Sip) (position : Int) (count : Nat) :
    (∃ e, ((Kernel.ofSink Sip).request t file position count).1 = .failed e) ∨
      ((Kernel.ofSink Sip).request t file position count).1 =
        .took (min 1 (slice file position.toNat count).length) := by
  show (∃ e, (if position < 0 then (Sending.failed .invalid, t) else step t file _ _).1 =
      .failed e) ∨
    (if position < 0 then (Sending.failed .invalid, t) else step t file _ _).1 = _
  split
  · exact .inl ⟨_, rfl⟩
  · rw [step]
    split
    · exact .inl ⟨_, rfl⟩
    · dsimp only [Sink.fault]
      split
      · exact .inl ⟨_, rfl⟩
      · exact .inr (carry_eq _ _)

end Sip

/-- A transfer that the file is too short for carries what there is, and when it is taken up again
    it fails once more. -/
theorem Kernel.Series.resumes_sip : ∃ c s r c' s',
    (ofSink Sip).Series Sip.file Sip.announced ⟨⟨⟩, []⟩ c s ∧ s.sent = [2, 3] ∧
      (ofSink Sip).run Sip.file c s = some (r, c', s') ∧ ∃ e, r = .error e := by
  obtain ⟨r₁, c₁, s₁, hrun₁, -⟩ :=
    (ofSink Sip).exists_run (show Sip.file.length < positionLimit by decide) Sip.announced
      ⟨⟨⟩, []⟩
  have hs₁ := run_ofSink hrun₁
  rw [Sip.run_announced] at hs₁
  have hseries : (ofSink Sip).Series Sip.file Sip.announced ⟨⟨⟩, []⟩ c₁ s₁ := .run .start hrun₁
  obtain ⟨-, ⟨r, c', s', hrun, -, hends⟩, -⟩ := hseries.resumes (by decide)
  -- This sink never puts an offer off, and takes nothing only behind the end of the file.
  have hnever t position count :
      ((ofSink Sip).request t Sip.file position count).1 ≠ .wouldBlock := by
    rcases Sip.request_cases Sip.file t position count with ⟨e, he⟩ | htook
    · simp [he]
    · simp [htook]
  have hzero t position count (hpos : 0 < count)
      (h : ((ofSink Sip).request t Sip.file position count).1 = .took 0) :
      Sip.file.length ≤ position.toNat := by
    rcases Sip.request_cases Sip.file t position count with ⟨e, he⟩ | htook
    · simp [he] at h
    · rw [htook, length_slice] at h
      have := Sending.took.inj h
      omega
  obtain ⟨-, hresult⟩ := hends (by decide) (by decide)
  refine ⟨c₁, s₁, r, c', s', hseries, congrArg (fun x => x.2.2.sent) hs₁.symm, hrun, ?_⟩
  rcases hresult hnever hzero with ⟨hr, -⟩ | ⟨e, -, hr, -⟩
  · exact ⟨_, hr⟩
  · exact ⟨e, hr⟩

end FileServer
