import FileServer.Http.Head
import Mathlib.Data.List.TakeWhile

/-!
# What is taken off the front

Every reader of a head takes some bytes off the front of those that are there, and looks at
nothing behind them. It takes them whatever follows, and as long as the last of them is
missing it waits: it calls the bytes incomplete, and neither accepts nor refuses them
(`RequestHead.Takes`). Readers that are called one after the other take their bytes one after
the other (`RequestHead.Took.bind`), so what a reader takes follows from what the readers take
that it calls. There is one lemma for each reader, in the order in which they call each other.
The one reader that looks at a byte without taking it, `RequestHead.skipEmptyLines`, is told
together with the reader that takes this byte.

* `RequestHead.took_readParts`: what is taken for the parts of a head;
* `RequestHead.takes_of_read`: what is taken for a head, which are as many bytes as are told;
* `RequestHead.read_append`: a head that was read is read from longer bytes too;
* `RequestHead.complete_at_last_byte`: bytes are a head from its last byte on, and not before.
-/

namespace FileServer

/-- What a line may end with. -/
def IsLineEnd (bs : Bytes) : Prop := bs = [10] ∨ bs = [13, 10]

namespace RequestHead

variable {ρ σ : Type} {reader reader' : Bytes → Except HeadError ρ}
  {next : ρ → Except HeadError σ} {bs taken taken' rest rest' : Bytes} {result : Bytes → ρ}
  {result' : Bytes → σ}

/-- The reader takes these bytes, whatever stands behind them, and waits for the last of them.
    What it gives is told by what it leaves. -/
structure Takes (reader : Bytes → Except HeadError ρ) (taken : Bytes) (result : Bytes → ρ) :
    Prop where
  reads : ∀ more, reader (taken ++ more) = .ok (result more)
  waits : ∀ part missing, missing ≠ [] → taken = part ++ missing →
    reader part = .error .incomplete

namespace Takes

/-- A reader that looks at nothing takes nothing. -/
theorem pure (result : Bytes → ρ) : Takes (fun bs => .ok (result bs)) [] result where
  reads _ := rfl
  waits _ _ hne h := absurd (List.append_eq_nil_iff.1 h.symm).2 hne

/-- What is called behind a reader takes its bytes behind those of the reader. -/
theorem bind (h : Takes reader taken result)
    (h' : Takes (fun bs => next (result bs)) taken' result') :
    Takes (fun bs => reader bs >>= next) (taken ++ taken') result' where
  reads more := by
    rw [List.append_assoc, h.reads]
    exact h'.reads more
  waits part missing hne heq := by
    rcases List.append_eq_append_iff.1 heq with ⟨part', rfl, heq'⟩ | ⟨missing', rfl, rfl⟩
    · rw [h.reads]
      exact h'.waits part' missing hne heq'
    · by_cases hmissing' : missing' = []
      · -- The first reader has all that it takes, and nothing is there for the second one.
        subst hmissing'
        have hread := h.reads []
        rw [List.append_nil, List.append_nil] at hread
        rw [hread]
        exact h'.waits [] taken' hne rfl
      · rw [h.waits part missing' hmissing' rfl]
        rfl

/-- A reader that goes on as another one behind a first byte. -/
theorem cons {b : UInt8} (h : Takes reader' taken result)
    (hnil : reader [] = .error .incomplete) (hcons : ∀ bs, reader (b :: bs) = reader' bs) :
    Takes reader (b :: taken) result where
  reads more := by rw [List.cons_append, hcons, h.reads]
  waits part missing hne heq := by
    rcases part with _ | ⟨c, part⟩
    · exact hnil
    · obtain ⟨rfl, htaken⟩ := List.cons.inj heq
      rw [hcons, h.waits part missing hne htaken]

/-- A reader that goes on as another one from a first byte on. -/
theorem of_head {b : UInt8} (h : Takes reader' (b :: taken) result)
    (hnil : reader [] = .error .incomplete) (hcons : ∀ bs, reader (b :: bs) = reader' (b :: bs)) :
    Takes reader (b :: taken) result := by
  have htail : Takes (fun bs => reader' (b :: bs)) taken result :=
    ⟨h.reads, fun part missing hne heq => h.waits (b :: part) missing hne (by rw [heq]; rfl)⟩
  exact htail.cons hnil hcons

/-- A reader that waits where there is nothing takes at least one byte. -/
theorem ne_nil (h : Takes reader taken result) (hnil : reader [] = .error .incomplete) :
    taken ≠ [] := by
  rintro rfl
  have hread := h.reads []
  rw [List.append_nil, hnil] at hread
  cases hread

end Takes

/-- The reader took something off the front of some bytes, and left the rest. -/
def Took (reader : Bytes → Except HeadError ρ) (bs rest : Bytes) (result : Bytes → ρ) : Prop :=
  ∃ taken, bs = taken ++ rest ∧ Takes reader taken result

namespace Took

theorem pure (bs : Bytes) (result : Bytes → ρ) : Took (fun bs => .ok (result bs)) bs bs result :=
  ⟨[], rfl, .pure result⟩

theorem bind (h : Took reader bs rest result)
    (h' : Took (fun bs => next (result bs)) rest rest' result') :
    Took (fun bs => reader bs >>= next) bs rest' result' := by
  obtain ⟨taken, rfl, htakes⟩ := h
  obtain ⟨taken', rfl, htakes'⟩ := h'
  exact ⟨taken ++ taken', (List.append_assoc _ _ _).symm, htakes.bind htakes'⟩

theorem cons {b : UInt8} (h : Took reader' bs rest result)
    (hnil : reader [] = .error .incomplete) (hcons : ∀ bs, reader (b :: bs) = reader' bs) :
    Took reader (b :: bs) rest result := by
  obtain ⟨taken, rfl, htakes⟩ := h
  exact ⟨b :: taken, rfl, htakes.cons hnil hcons⟩

theorem of_head {b : UInt8} (h : Took reader' (b :: bs) rest result)
    (hnil' : reader' [] = .error .incomplete) (hnil : reader [] = .error .incomplete)
    (hcons : ∀ bs, reader (b :: bs) = reader' (b :: bs)) : Took reader (b :: bs) rest result := by
  obtain ⟨taken, heq, htakes⟩ := h
  obtain ⟨c, behind, rfl⟩ := List.exists_cons_of_ne_nil (htakes.ne_nil hnil')
  obtain ⟨rfl, rfl⟩ := List.cons.inj heq
  exact ⟨b :: behind, rfl, htakes.of_head hnil hcons⟩

/-- A reader that leaves out the bytes of a class first has taken them as well. -/
theorem dropWhile {isInside : UInt8 → Bool} (h : Took reader (bs.dropWhile isInside) rest result)
    (hnil : reader [] = .error .incomplete) :
    Took (fun bs => reader (bs.dropWhile isInside)) bs rest result := by
  induction bs with
  | nil =>
    obtain ⟨taken, heq, htakes⟩ := h
    exact absurd (List.append_eq_nil_iff.1 heq.symm).1 (htakes.ne_nil hnil)
  | cons b bs ih =>
    by_cases hb : isInside b = true
    · rw [List.dropWhile_cons_of_pos hb] at h
      exact (ih h).cons hnil fun bs => by rw [List.dropWhile_cons_of_pos hb]
    · rw [List.dropWhile_cons_of_neg hb] at h
      exact h.of_head hnil hnil fun bs => by rw [List.dropWhile_cons_of_neg hb]

end Took

/-- What is there of some bytes ends before the last of them, if something is missing. -/
theorem prefix_of_concat_eq {part missing front : Bytes} {last : UInt8} (hne : missing ≠ [])
    (h : front ++ [last] = part ++ missing) : part <+: front := by
  refine (List.prefix_concat_iff.1 (h ▸ List.prefix_append part missing)).resolve_left ?_
  rintro rfl
  exact hne (List.self_eq_append_right.1 h)

/-! ### Lines -/

theorem eq_of_readLineFeed (h : readLineFeed bs = .ok rest) : bs = 10 :: rest := by
  rcases bs with _ | ⟨b, bs⟩
  · cases h
  · rw [readLineFeed] at h
    split at h
    · rename_i hb
      rw [hb, Except.ok.inj h]
    · cases h

theorem took_readLineFeed (h : readLineFeed bs = .ok rest) : Took readLineFeed bs rest id := by
  rw [eq_of_readLineFeed h]
  exact (Took.pure rest id).cons rfl fun _ => rfl

theorem ends_of_readLineEnd (h : readLineEnd bs = .ok rest) :
    ∃ eol, IsLineEnd eol ∧ bs = eol ++ rest := by
  rcases bs with _ | ⟨b, bs⟩
  · cases h
  · rw [readLineEnd] at h
    split at h
    · rename_i hb
      exact ⟨[13, 10], .inr rfl, by rw [hb, eq_of_readLineFeed h]; rfl⟩
    · exact ⟨[10], .inl rfl, eq_of_readLineFeed h⟩

theorem took_readLineEnd (h : readLineEnd bs = .ok rest) : Took readLineEnd bs rest id := by
  obtain ⟨eol, rfl | rfl, rfl⟩ := ends_of_readLineEnd h
  · exact (Took.pure rest id).cons rfl fun _ => rfl
  · have hfeed : Took readLineFeed (10 :: rest) rest id := took_readLineFeed rfl
    exact hfeed.cons rfl fun _ => rfl

theorem skipEmptyLines_of_ne {b : UInt8} (h10 : b ≠ 10) (h13 : b ≠ 13) :
    skipEmptyLines (b :: bs) = .ok (b :: bs) := by
  rw [skipEmptyLines]
  · exact h10
  all_goals
    intros
    contradiction

/-- Empty lines are taken by what goes on behind them, if it takes at least one byte. -/
theorem took_skipEmptyLines_bind {next : Bytes → Except HeadError σ}
    (h : skipEmptyLines bs = .ok rest) (hnil : next [] = .error .incomplete)
    (h' : Took next rest rest' result') :
    Took (fun bs => skipEmptyLines bs >>= next) bs rest' result' := by
  induction bs using skipEmptyLines.induct with
  | case1 => cases h
  | case2 bs ih =>
    -- A line feed is skipped.
    rw [skipEmptyLines] at h
    exact (ih h).cons rfl fun bs => by rw [skipEmptyLines]
  | case3 bs ih =>
    -- A carriage return and a line feed are skipped.
    rw [skipEmptyLines] at h
    have hfeed : Took (fun bs => skipEmptyLines (13 :: bs) >>= next) (10 :: bs) rest' result' :=
      (ih h).cons rfl fun bs => by rw [skipEmptyLines]
    exact hfeed.cons rfl fun _ => rfl
  | case4 => cases h
  | case5 bs hne hne' =>
    -- A carriage return without a line feed.
    have herror : skipEmptyLines (13 :: bs) = .error .invalidRequest := by
      rw [skipEmptyLines]
      · exact hne
      · exact hne'
    rw [herror] at h
    cases h
  | case6 b bs h10 hcrlf hcr h13 =>
    -- The first line begins.
    rw [skipEmptyLines_of_ne h10 h13] at h
    obtain rfl := Except.ok.inj h
    exact h'.of_head hnil rfl fun bs => by rw [skipEmptyLines_of_ne h10 h13]; rfl

/-! ### The request line -/

/-- A stretch of bytes of a class is read up to the byte that ends it. -/
theorem readUntil_of_stop {stop : UInt8} {isInside : UInt8 → Bool} {inside : Bytes}
    (hne : inside ≠ []) (hinside : ∀ b ∈ inside, isInside b = true)
    (hstop : isInside stop = false) (rest : Bytes) :
    readUntil stop isInside (inside ++ stop :: rest) = .ok (inside, rest) := by
  have hdrop : (inside ++ stop :: rest).dropWhile isInside = stop :: rest := by
    rw [List.dropWhile_append_of_pos hinside, List.dropWhile_cons_of_neg (by simp [hstop])]
  have htake : (inside ++ stop :: rest).takeWhile isInside = inside := by
    rw [List.takeWhile_append_of_pos hinside, List.takeWhile_cons_of_neg (by simp [hstop]),
      List.append_nil]
  rw [readUntil, hdrop, htake]
  exact if_pos ⟨rfl, hne⟩

theorem took_readUntil {stop : UInt8} {isInside : UInt8 → Bool} {inside : Bytes}
    (h : readUntil stop isInside bs = .ok (inside, rest)) :
    Took (readUntil stop isInside) bs rest (inside, ·) := by
  rw [readUntil] at h
  split at h
  · cases h
  rename_i b behind hbehind
  dsimp only at h
  split at h
  · rename_i hstop
    obtain ⟨rfl, hne⟩ := hstop
    obtain ⟨rfl, rfl⟩ := Prod.mk.inj (Except.ok.inj h)
    -- What is taken are the bytes inside and the one on which the reader stopped.
    have hinside : ∀ c ∈ bs.takeWhile isInside, isInside c = true := fun c =>
      List.mem_takeWhile_imp
    have hstop : isInside b = false := by
      have hhead := List.head?_dropWhile_not isInside bs
      rw [hbehind] at hhead
      simpa using hhead
    refine ⟨bs.takeWhile isInside ++ [b], ?_, ?_, ?_⟩
    · rw [List.append_assoc, List.singleton_append, ← hbehind, List.takeWhile_append_dropWhile]
    · intro more
      rw [List.append_assoc]
      exact readUntil_of_stop hne hinside hstop more
    · -- Cut short, all that is left is inside, so nothing stops the reader.
      intro part missing hmissing heq
      have hdrop : part.dropWhile isInside = [] := List.dropWhile_eq_nil_iff.2 fun c hc =>
        hinside c ((prefix_of_concat_eq hmissing heq).subset hc)
      rw [readUntil, hdrop]
  · cases h

theorem took_readTarget {target : List Char} (h : readTarget bs = .ok (target, rest)) :
    Took readTarget bs rest (target, ·) := by
  rw [readTarget] at h
  rcases hread : readUntil 32 isTargetByte bs with e | ⟨bytes, rest'⟩
  · rw [hread] at h
    cases h
  rw [hread] at h
  dsimp only [bind, Except.bind] at h
  split at h
  · cases h
  · rename_i cs hdecode
    obtain ⟨rfl, rfl⟩ := Prod.mk.inj (Except.ok.inj h)
    refine (took_readUntil hread).bind ?_
    dsimp only
    rw [hdecode]
    exact Took.pure rest' _

theorem versionStart_eq : versionStart = [72, 84, 84, 80, 47, 49, 46] := by decide +kernel

/-- A version is taken as a whole: before its last byte is there, it is as good as none. -/
theorem takes_readVersion {digit : UInt8} {version : Nat}
    (h : digit = 48 ∧ version = 0 ∨ digit = 49 ∧ version = 1) :
    Takes readVersion (versionStart ++ [digit]) (version, ·) where
  reads more := by
    rw [List.append_assoc, List.singleton_append, versionStart_eq]
    rcases h with ⟨rfl, rfl⟩ | ⟨rfl, rfl⟩
    all_goals
      rw [readVersion, if_neg (by simp)]
      exact if_pos versionStart_eq.symm
  waits part missing hne heq := by
    have hpart : part <+: versionStart := prefix_of_concat_eq hne heq
    have hshort : part.length ≤ 7 := by
      have hlength := hpart.length_le
      rwa [versionStart_eq] at hlength
    rw [readVersion, if_pos (Nat.lt_succ_of_le hshort), List.take_of_length_le hshort,
      if_pos (List.prefix_iff_eq_take.1 hpart)]

theorem took_readVersion {version : Nat} (h : readVersion bs = .ok (version, rest)) :
    Took readVersion bs rest (version, ·) := by
  rw [readVersion] at h
  split at h
  · split at h <;> cases h
  split at h
  · rename_i htake
    have hbs : bs = versionStart ++ bs.drop 7 := by rw [← htake, List.take_append_drop]
    split at h
    · rename_i hdrop
      obtain ⟨rfl, rfl⟩ := Prod.mk.inj (Except.ok.inj h)
      rw [hdrop] at hbs
      exact ⟨versionStart ++ [48], by rw [hbs, List.append_assoc]; rfl,
        takes_readVersion (.inl ⟨rfl, rfl⟩)⟩
    · rename_i hdrop
      obtain ⟨rfl, rfl⟩ := Prod.mk.inj (Except.ok.inj h)
      rw [hdrop] at hbs
      exact ⟨versionStart ++ [49], by rw [hbs, List.append_assoc]; rfl,
        takes_readVersion (.inr ⟨rfl, rfl⟩)⟩
    · cases h
  · cases h

/-! ### Header lines -/

theorem took_readHeader (h : readHeader bs = .ok rest) : Took readHeader bs rest id := by
  rw [readHeader] at h
  rcases hread : readUntil 58 isTokenByte bs with e | ⟨name, value⟩
  · rw [hread] at h
    cases h
  · rw [hread] at h
    exact (took_readUntil hread).bind ((took_readLineEnd h).dropWhile rfl)

theorem readHeaders_cons (room : Nat) (b : UInt8) (bs : Bytes) :
    readHeaders room (b :: bs) =
      if b = 13 then readLineFeed bs
      else if b = 10 then .ok bs
      else match readHeader (b :: bs), room with
        | .error e, _ => .error e
        | .ok _, 0 => .error .tooManyHeaders
        | .ok rest, room + 1 => readHeaders room rest :=
  readHeaders.eq_def room (b :: bs)

theorem readHeaders_nil (room : Nat) : readHeaders room [] = .error .incomplete :=
  readHeaders.eq_def room []

theorem took_readHeaders {room : Nat} (h : readHeaders room bs = .ok rest) :
    Took (readHeaders room) bs rest id := by
  induction room, bs using readHeaders.induct with
  | case1 room =>
    -- Nothing is there.
    rw [readHeaders_nil] at h
    cases h
  | case2 room bs =>
    -- The empty line ends in a carriage return and a line feed.
    rw [readHeaders_cons, if_pos rfl] at h
    exact (took_readLineFeed h).cons (readHeaders_nil room) fun bs => by
      rw [readHeaders_cons, if_pos rfl]
  | case3 room bs hne =>
    -- It ends in a line feed.
    rw [readHeaders_cons, if_neg hne, if_pos rfl] at h
    obtain rfl := Except.ok.inj h
    exact (Took.pure bs id).cons (readHeaders_nil room) fun bs => by
      rw [readHeaders_cons, if_neg hne, if_pos rfl]
      rfl
  | case4 room b bs hcr hlf e hread =>
    -- A header that cannot be read.
    rw [readHeaders_cons, if_neg hcr, if_neg hlf, hread] at h
    cases h
  | case5 b bs hcr hlf behind hread =>
    -- A header for which there is no room.
    rw [readHeaders_cons, if_neg hcr, if_neg hlf, hread] at h
    cases h
  | case6 b bs hcr hlf behind room hread ih =>
    -- A header, and what follows it.
    rw [readHeaders_cons, if_neg hcr, if_neg hlf, hread] at h
    have hlines : Took (fun bs => readHeader bs >>= readHeaders room) (b :: bs) rest id :=
      (took_readHeader hread).bind (ih h)
    refine hlines.of_head rfl (readHeaders_nil _) fun bs => ?_
    rw [readHeaders_cons, if_neg hcr, if_neg hlf]
    cases readHeader (b :: bs) <;> rfl

/-! ### Heads -/

/-- Where the parts of a head are read, each reader succeeds in turn, and goes on with what the
    one before it left. -/
theorem readers_of_readParts {parts : Parts} (h : readParts bs = .ok (parts, rest)) :
    ∃ bs₁ bs₂ bs₃ bs₄ bs₅, skipEmptyLines bs = .ok bs₁ ∧
      readUntil 32 isTokenByte bs₁ = .ok (parts.method, bs₂) ∧
      readTarget bs₂ = .ok (parts.target, bs₃) ∧ readVersion bs₃ = .ok (parts.version, bs₄) ∧
      readLineEnd bs₄ = .ok bs₅ ∧ readHeaders maxHeaders bs₅ = .ok rest := by
  rw [readParts] at h
  -- A reader that fails makes all of it fail.
  dsimp only [bind, Except.bind] at h
  split at h
  · cases h
  rename_i bs₁ hskip
  split at h
  · cases h
  rename_i method hmethod
  split at h
  · cases h
  rename_i target htarget
  split at h
  · cases h
  rename_i version hversion
  split at h
  · cases h
  rename_i bs₅ hend
  split at h
  · cases h
  rename_i bs₆ hheaders
  obtain ⟨rfl, rfl⟩ := Prod.mk.inj (Except.ok.inj h)
  exact ⟨bs₁, _, _, _, bs₅, hskip, hmethod, htarget, hversion, hend, hheaders⟩

theorem took_readParts {parts : Parts} (h : readParts bs = .ok (parts, rest)) :
    Took readParts bs rest (parts, ·) := by
  obtain ⟨_, _, _, _, _, hskip, hmethod, htarget, hversion, hend, hheaders⟩ :=
    readers_of_readParts h
  refine took_skipEmptyLines_bind hskip rfl ?_
  exact (took_readUntil hmethod).bind <| (took_readTarget htarget).bind <|
    (took_readVersion hversion).bind <| (took_readLineEnd hend).bind <|
      (took_readHeaders hheaders).bind <| Took.pure _ _

/-- What is read of a head depends on what is taken for it, and on nothing behind. -/
theorem takes_of_read {head : RequestHead} {n : Nat} (h : read bs = .ok (head, n)) :
    n ≤ bs.length ∧ Takes read (bs.take n) fun _ => (head, n) := by
  rw [read] at h
  rcases hparts : readParts bs with e | ⟨parts, rest⟩
  · rw [hparts] at h
    cases h
  rw [hparts] at h
  dsimp only [bind, Except.bind] at h
  split at h
  · cases h
  rename_i path hpath
  obtain ⟨rfl, rfl⟩ := Prod.mk.inj (Except.ok.inj h)
  obtain ⟨taken, rfl, htakes⟩ := took_readParts hparts
  rw [List.length_append, Nat.add_sub_cancel, List.take_left' rfl]
  refine ⟨Nat.le_add_right _ _, fun more => ?_, fun part missing hne heq => ?_⟩
  · rw [read, htakes.reads]
    dsimp only [bind, Except.bind]
    rw [hpath, List.length_append, Nat.add_sub_cancel]
    rfl
  · rw [read, htakes.waits part missing hne heq]
    rfl

/-- A head that was read is read from longer bytes too, and is as long as before. -/
theorem read_append {head : RequestHead} {n : Nat} (h : read bs = .ok (head, n)) (more : Bytes) :
    read (bs ++ more) = .ok (head, n) := by
  have hread := (takes_of_read h).2.reads (bs.drop n ++ more)
  rwa [← List.append_assoc, List.take_append_drop] at hread

/-- A head that was read is as long as is told: the bytes up to there are read as the same
    head whatever stands behind them, and until the last of them is there, they are
    incomplete. -/
theorem complete_at_last_byte {head : RequestHead} {n : Nat} (h : read bs = .ok (head, n)) :
    n ≤ bs.length ∧ (∀ more, read (bs.take n ++ more) = .ok (head, n)) ∧
      ∀ k, read (bs.take k) = if k < n then .error .incomplete else .ok (head, n) := by
  obtain ⟨hle, htakes⟩ := takes_of_read h
  refine ⟨hle, htakes.reads, fun k => ?_⟩
  split
  · rename_i hk
    have hsplit : bs.take n = bs.take k ++ (bs.take n).drop k := by
      have hcut := (List.take_append_drop k (bs.take n)).symm
      rwa [List.take_take, Nat.min_eq_left hk.le] at hcut
    refine htakes.waits (bs.take k) _ (fun hnil => ?_) hsplit
    have hlength := congrArg List.length hnil
    rw [List.length_drop, List.length_take, List.length_nil] at hlength
    omega
  · rename_i hk
    obtain ⟨more, hmore⟩ : bs.take n <+: bs.take k :=
      List.take_prefix_take_left (Nat.le_of_not_lt hk)
    rw [← hmore]
    exact htakes.reads more

/-- A head with an empty line in front and a bare line feed at its end, and the next request
    behind it. -/
theorem complete_at_last_byte_followed :
    let bs := Bytes.ofString "\r\nGET /static/a HTTP/1.1\nHost: x\r\n\nGET /"
    read bs = .ok (⟨"GET", "/static/a", 1⟩, 35) ∧
      read (bs.take 34) = .error .incomplete ∧
      read (bs.take 35 ++ [0]) = .ok (⟨"GET", "/static/a", 1⟩, 35) := by
  intro bs
  have hread : read bs = .ok (⟨"GET", "/static/a", 1⟩, 35) := by decide +kernel
  obtain ⟨-, hmore, htake⟩ := complete_at_last_byte hread
  exact ⟨hread, htake 34, hmore [0]⟩

end RequestHead

end FileServer
