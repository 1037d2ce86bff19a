import FileServer.Proofs.Socket.Logged
import FileServer.Proofs.Transfer.Delivery
import FileServer.Socket.Scripted

/-!
# Headers go out once

A buffer is used by preparing headers and flushing them, as often as one likes and to any
sinks (`SendBuffer.Used`). What one flush comes to is told by the offers that it makes
(`SendBuffer.Flushed`): each is of all the bytes that were not taken before, and how the last
one ends says how the flush ends.

Between two headers nothing is taken twice and nothing is left out: what the sinks have taken is
the front of the header, and what is left is the rest of it (`SendBuffer.Used.delivers_once`).
-/

namespace FileServer.SendBuffer

variable {S : Type} [Sink S]

/-! ### One flush -/

/-- The offers that a flush makes to a sink. -/
def offersTo (b : SendBuffer) (s : S) : List Offer := (b.flush (⟨s, []⟩ : Logged S)).2.2.offers

/-- What a flush comes to that makes certain offers. -/
structure Flushed (b : SendBuffer) (offers : List Offer) (result : Except SystemError Progress)
    (b' : SendBuffer) : Prop where
  content : b'.content = b.content
  /-- What was taken is counted, -/
  written : b'.written = b.written + (Offer.taken offers).length
  /-- and is the front of what had not been taken. -/
  rest : b.rest = Offer.taken offers ++ b'.rest
  inTurn : Offer.InTurn b.rest offers
  done_iff : result = .ok .done ↔ b'.remaining = 0
  blocked_iff : result = .ok .blocked ↔ ∃ o ∈ offers, o.outcome = .wouldBlock
  /-- A failure is that of an offer of which nothing was taken, or the one that was reported. -/
  error_iff : ∀ e, result = .error e ↔
    e = tookNothing ∧ (∃ o ∈ offers, o.outcome = .took 0) ∨ ∃ o ∈ offers, o.outcome = .failed e

variable {b b' : SendBuffer} {offers : List Offer} {result : Except SystemError Progress}

/-- Nothing is left to be offered. -/
theorem Flushed.of_done (h : b.remaining = 0) : b.Flushed [] (.ok .done) b where
  content := rfl
  written := rfl
  rest := rfl
  inTurn := trivial
  done_iff := by simp [h]
  blocked_iff := by simp
  error_iff := by simp

/-- An offer of which nothing is taken, and behind which nothing more is offered. -/
theorem Flushed.of_stop {r : Sending} (h : 0 < b.remaining) (hpart : r.part b.rest = [])
    (hdone : result ≠ .ok .done) (hblocked : result = .ok .blocked ↔ r = .wouldBlock)
    (herror : ∀ e, result = .error e ↔ e = tookNothing ∧ r = .took 0 ∨ r = .failed e) :
    b.Flushed [⟨b.rest, r⟩] result b where
  content := rfl
  written := by simp [Offer.part, hpart]
  rest := by simp [Offer.part, hpart]
  inTurn := ⟨rfl, rest_ne_nil h, trivial⟩
  done_iff := by
    simp only [hdone, false_iff]
    omega
  blocked_iff := by simpa using hblocked
  error_iff := by simpa using herror

/-- An offer behind which the rest is offered: something was taken of it, or it was interrupted. -/
theorem Flushed.cons {r : Sending} {k : Nat} (h : 0 < b.remaining)
    (hpart : r.part b.rest = b.rest.take k) (hk : k ≤ b.remaining)
    (hon : r ≠ .wouldBlock ∧ r ≠ .took 0 ∧ ∀ e, r ≠ .failed e)
    (hlater : (b.advance k).Flushed offers result b') :
    b.Flushed (⟨b.rest, r⟩ :: offers) result b' where
  content := hlater.content
  written := by
    rw [hlater.written, written_advance, Offer.taken_cons, Offer.part, hpart, List.length_append,
      List.length_take, length_rest, Nat.min_eq_left hk, Nat.add_assoc]
  rest := by
    rw [Offer.taken_cons, Offer.part, hpart, List.append_assoc, ← hlater.rest, rest_advance,
      List.take_append_drop]
  inTurn := by
    refine ⟨rfl, rest_ne_nil h, ?_⟩
    rw [Offer.part, hpart, List.length_take, length_rest, Nat.min_eq_left hk, ← rest_advance]
    exact hlater.inTurn
  done_iff := hlater.done_iff
  blocked_iff := by simp [hlater.blocked_iff, hon.1]
  error_iff := by simp [hlater.error_iff, hon.2.1, hon.2.2]

/-- A flush does what `Flushed` says, with the offers that are written down. -/
theorem flushed_logged (b : SendBuffer) (s : Logged S) :
    ∃ offers, (b.flush s).2.2.offers = s.offers ++ offers ∧
      b.Flushed offers (b.flush s).1 (b.flush s).2.1 := by
  fun_induction flush b s with
  | case1 b s h s' hs =>
    -- The sink takes nothing.
    exact ⟨_, Logged.offers_send hs, .of_stop (Nat.sub_pos_of_lt h) rfl (by simp) (by simp)
      (by simp [eq_comm])⟩
  | case2 b s h n s' hs ih =>
    -- It takes a part, and the flush goes on with the rest.
    obtain ⟨offers, hoffers, hlater⟩ := ih
    have hn := Sink.send_took_le s b.rest (n + 1) (by rw [hs])
    rw [length_rest] at hn
    refine ⟨⟨b.rest, .took (n + 1)⟩ :: offers, ?_, ?_⟩
    · rw [hoffers, Logged.offers_send hs, List.append_assoc, List.singleton_append]
    · exact .cons (Nat.sub_pos_of_lt h) rfl hn (by simp) hlater
  | case3 b s h s' hs ih =>
    -- It is interrupted.
    obtain ⟨offers, hoffers, hlater⟩ := ih
    refine ⟨⟨b.rest, .interrupted⟩ :: offers, ?_, ?_⟩
    · rw [hoffers, Logged.offers_send hs, List.append_assoc, List.singleton_append]
    · exact .cons (k := 0) (Nat.sub_pos_of_lt h) rfl (Nat.zero_le _) (by simp) hlater
  | case4 b s h s' hs =>
    -- It would block.
    exact ⟨_, Logged.offers_send hs, .of_stop (Nat.sub_pos_of_lt h) rfl (by simp) (by simp)
      (by simp)⟩
  | case5 b s h e s' hs =>
    -- It fails.
    exact ⟨_, Logged.offers_send hs, .of_stop (Nat.sub_pos_of_lt h) rfl (by simp) (by simp)
      (by simp)⟩
  | case6 b s h =>
    -- Nothing is left to offer.
    exact ⟨[], (List.append_nil _).symm, .of_done (Nat.sub_eq_zero_of_le (Nat.not_lt.1 h))⟩

/-- A flush does what `Flushed` says. -/
theorem flushed (b : SendBuffer) (s : S) :
    b.Flushed (b.offersTo s) (b.flush s).1 (b.flush s).2.1 := by
  -- The log is kept beside the sink and changes nothing.
  have hlog : b.flush s = ((b.flush (⟨s, []⟩ : Logged S)).1, (b.flush (⟨s, []⟩ : Logged S)).2.1,
      (b.flush (⟨s, []⟩ : Logged S)).2.2.inner) :=
    flush_map (f := Logged.inner) (fun _ _ => rfl) b ⟨s, []⟩
  obtain ⟨offers, hoffers, hflushed⟩ := b.flushed_logged ⟨s, []⟩
  rw [hlog, offersTo, hoffers]
  exact hflushed

/-- What is left and what was taken is what was left before. -/
theorem Flushed.remaining_add (h : b.Flushed offers result b') :
    b'.remaining + (Offer.taken offers).length = b.remaining := by
  have hlen := congrArg List.length h.rest
  rw [List.length_append, length_rest, length_rest] at hlen
  omega

/-- A flush that gives up for the moment leaves something to be taken. -/
theorem Flushed.remaining_pos (h : b.Flushed offers result b') (hb : result = .ok .blocked) :
    0 < b'.remaining := by
  refine Nat.pos_of_ne_zero fun hzero => ?_
  have hdone := h.done_iff.2 hzero
  rw [hb] at hdone
  simp at hdone

/-! ### Any number of flushes -/

/-- A buffer that headers were prepared in and that was flushed, in any order and to any sinks,
    with the header that was prepared last and the offers that were made since. -/
inductive Used : SendBuffer → Bytes → List Offer → Prop
  | new : Used {} [] []
  | prepare {b : SendBuffer} {header : Bytes} {offers : List Offer} (next : ResponseHeader) :
    Used b header offers → Used (b.prepare next) next.toBytes []
  | flush {S : Type} [Sink S] {b : SendBuffer} {header : Bytes} {offers : List Offer} (s : S) :
    Used b header offers → Used (b.flush s).2.1 header (offers ++ b.offersTo s)

/-- What was taken since a header was prepared is the front of it, and what is left is the rest. -/
structure Delivered (b : SendBuffer) (header : Bytes) (offers : List Offer) : Prop where
  content : b.content = header
  written_le : b.written ≤ b.length
  taken_eq : Offer.taken offers = header.take (b.length - b.remaining)
  rest_eq : b.rest = header.drop (b.length - b.remaining)
  /-- So the first offer behind one that failed is of the bytes that had not been taken. -/
  inTurn : Offer.InTurn header offers

variable {header : Bytes}

/-- The count of a buffer is that of the bytes that were taken, which are the front of the header. -/
theorem Used.written_eq (h : Used b header offers) :
    b.content = header ∧ b.written = (Offer.taken offers).length ∧
      Offer.taken offers = header.take b.written ∧ Offer.InTurn header offers := by
  induction h with
  | new => exact ⟨rfl, rfl, rfl, trivial⟩
  | prepare next _ _ => exact ⟨rfl, rfl, rfl, trivial⟩
  | @flush _ _ b header offers s _ ih =>
    obtain ⟨hcontent, hwritten, htaken, hturn⟩ := ih
    have hflush := b.flushed s
    have hrest : b.rest = header.drop b.written := by rw [rest, hcontent]
    have hnew : Offer.taken (b.offersTo s) =
        b.rest.take (Offer.taken (b.offersTo s)).length := by
      rw [hflush.rest, List.take_left]
    refine ⟨hflush.content.trans hcontent, ?_, ?_, ?_⟩
    · rw [hflush.written, hwritten, Offer.taken_append, List.length_append]
    · rw [hflush.written, Offer.taken_append, htaken, hnew, hrest, ← List.take_add, ← hrest, ← hnew]
    · rw [Offer.inTurn_append, ← hwritten, ← hrest]
      exact ⟨hturn, hflush.inTurn⟩

/-- However a header is flushed, it is delivered once: what was taken of it is its front, each
    flush goes on with the first byte that was not taken and tells why it ended, and the next
    header puts an end to it. -/
theorem Used.delivers_once (h : Used b header offers) :
    b.Delivered header offers ∧
    (∀ {S : Type} [Sink S] (s : S), b.Flushed (b.offersTo s) (b.flush s).1 (b.flush s).2.1 ∧
      (b.flush s).2.1.remaining + (Offer.taken (b.offersTo s)).length = b.remaining ∧
      ((b.flush s).1 = .ok .blocked → 0 < (b.flush s).2.1.remaining)) ∧
    ∀ next : ResponseHeader, b.prepare next = ⟨next.toBytes, 0⟩ := by
  obtain ⟨hcontent, hwritten, htaken, hturn⟩ := h.written_eq
  have hle : b.written ≤ b.length := by
    have hlen := congrArg List.length htaken
    rw [← hwritten, List.length_take] at hlen
    rw [length, hcontent]
    omega
  have hsub : b.length - b.remaining = b.written := Nat.sub_sub_self hle
  refine ⟨⟨hcontent, hle, ?_, ?_, hturn⟩, fun s => ?_, fun next => rfl⟩
  · rw [hsub, htaken]
  · rw [hsub, rest, hcontent]
  · exact ⟨b.flushed s, (b.flushed s).remaining_add, (b.flushed s).remaining_pos⟩

/-- A header that announces five bytes. -/
def short : SendBuffer := ({} : SendBuffer).prepare ⟨.ok, 5⟩

/-- Three bytes of it are taken, and then it has to wait. -/
def shortCut : Except SystemError Progress × SendBuffer × ScriptedSink :=
  short.flush ⟨[.take 3, .fail .wouldBlock], 0, []⟩

/-- The rest of it goes out in one piece. -/
def shortDone : Except SystemError Progress × SendBuffer × ScriptedSink :=
  shortCut.2.1.flush shortCut.2.2

theorem shortCut_eq : shortCut = (.ok .blocked, short.advance 3, ⟨[], 2, short.rest.take 3⟩) := by
  rw [shortCut, flush, dif_pos (by decide)]
  show flush (short.advance 3) (⟨[.fail .wouldBlock], 1, short.rest.take 3⟩ : ScriptedSink) = _
  rw [flush, dif_pos (by decide)]
  rfl

theorem shortDone_eq : shortDone.2.1 = (short.advance 3).advance (short.advance 3).remaining := by
  have hsend : Sink.send (⟨[], 2, short.rest.take 3⟩ : ScriptedSink) (short.advance 3).rest =
      (.took (short.advance 3).remaining, ⟨[], 3, short.content⟩) := rfl
  rw [shortDone, shortCut_eq, flush_of_took hsend (by decide)]

/-- A header that goes out in two pieces goes out once. -/
theorem delivers_once_cut : ∃ offers,
    Used shortDone.2.1 (ResponseHeader.mk .ok 5).toBytes offers ∧ shortDone.2.1.remaining = 0 ∧
      Offer.taken offers = (ResponseHeader.mk .ok 5).toBytes := by
  have hused : Used shortDone.2.1 (ResponseHeader.mk .ok 5).toBytes _ :=
    ((Used.new.prepare ⟨.ok, 5⟩).flush _).flush _
  have hremaining : shortDone.2.1.remaining = 0 := by
    rw [shortDone_eq]
    decide
  have hdelivered := (Used.delivers_once hused).1
  refine ⟨_, hused, hremaining, ?_⟩
  rw [hdelivered.taken_eq, hremaining, Nat.sub_zero, length, hdelivered.content, List.take_length]

end FileServer.SendBuffer
