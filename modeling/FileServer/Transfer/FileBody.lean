import FileServer.FileTree
import FileServer.Socket
import FileServer.Transfer.SendBuffer

/-!
# Sending a file

The kernel can carry bytes of a file straight to a socket. `FileBody.step` is one
such request: it looks at the range first, then at the socket, then whether any file
reaches that far, then at what the file holds, and reports how many bytes left.
`FileBody.run` repeats it until all announced bytes are out, the socket is full, or
something fails. The position moves with every byte that leaves, so a transfer that
had to stop can be taken up again; the position and what remains always add up to the
same number.
-/

namespace FileServer

/-- How far the body of a response has come. -/
structure FileBody where
  /-- Where in the file the next byte lies. -/
  offset : Nat
  /-- How many bytes are still to go. -/
  remaining : Nat
  deriving DecidableEq, Repr

namespace FileBody

/-- Positions in a file end here. -/
def positionLimit : Nat := Nat.pow 2 63

/-- How many bytes one request can name. -/
def requestLimit : Nat := positionLimit - 1

/-- How many bytes one request moves at most, however many it names: 2^31, less a page of
    memory. -/
def transferLimit : Nat := 0x7ffff000

/-- How many of the bytes that a request names it can move. -/
def granted (length : Nat) : Nat := min length transferLimit

/-- A request that names too many bytes, or can move some that lie behind the last position. -/
abbrev OutOfRange (offset length : Nat) : Prop :=
  positionLimit ≤ length ∨ positionLimit ≤ offset + granted length

/-- The failure of a file that holds less than was announced. -/
def endedEarly : SystemError := .own .unexpectedEof "file ended before announced length"

/-- The bytes that a file holds in a range, as far as it reaches. -/
def slice (file : Bytes) (offset count : Nat) : Bytes := (file.drop offset).take count

theorem length_slice_le (file : Bytes) (offset count : Nat) :
    (slice file offset count).length ≤ count := by
  simp only [slice, List.length_take]
  omega

/-- Carries the bytes of a range to the socket; an empty range takes nothing. -/
def carry {S : Type} [Sink S] (s : S) (part : Bytes) : Sending × S :=
  if part.isEmpty then (.took 0, s) else Sink.send s part

/-- One request to carry at most `count` bytes of `file` from `offset` on to the
    socket. None taken means that the file holds none there. -/
def step {S : Type} [Sink S] (s : S) (file : Bytes) (offset count : Nat) : Sending × S :=
  if offset + count ≥ positionLimit then (.failed .invalid, s)
  else match Sink.fault s with
    | some e => (.failed e, s)
    | none =>
      if FileTree.maxSize ≤ offset ∧ file.length ≤ offset then (.failed (.os .overflow), s)
      else carry s (slice file offset count)

theorem carry_took_le {S : Type} [Sink S] {s : S} {part : Bytes} {n : Nat}
    (h : (carry s part).1 = .took n) : n ≤ part.length := by
  unfold carry at h
  split at h
  · simp only [Sending.took.injEq] at h
    omega
  · exact Sink.send_took_le _ _ _ h

theorem carry_signals {S : Type} [Sink S] {s : S} {part : Bytes}
    (h : (carry s part).1 = .interrupted) :
    Sink.signals (carry s part).2 < Sink.signals s := by
  unfold carry at h ⊢
  split
  · simp_all
  · rename_i hne
    rw [if_neg hne] at h
    exact Sink.send_signals _ _ h

theorem step_took_le {S : Type} [Sink S] {s : S} {file : Bytes} {offset count n : Nat}
    (h : (step s file offset count).1 = .took n) : n ≤ count := by
  unfold step at h
  split at h
  · simp at h
  · split at h
    · simp at h
    · split at h
      · simp at h
      · exact Nat.le_trans (carry_took_le h) (length_slice_le _ _ _)

theorem step_signals {S : Type} [Sink S] {s : S} {file : Bytes} {offset count : Nat}
    (h : (step s file offset count).1 = .interrupted) :
    Sink.signals (step s file offset count).2 < Sink.signals s := by
  unfold step at h ⊢
  split
  · simp_all
  · rename_i hlt
    rw [if_neg hlt] at h
    split <;> rename_i hfault
    · simp [hfault] at h
    · simp only [hfault] at h
      split
      · simp_all
      · rename_i hsize
        rw [if_neg hsize] at h
        exact carry_signals h

/-- Carries what remains to the socket, as far as the socket takes it. -/
def run {S : Type} [Sink S] (file : Bytes) (body : FileBody) (s : S) :
    Except SystemError Progress × FileBody × S :=
  if _h : 0 < body.remaining then
    match _hs : step s file body.offset (min body.remaining requestLimit) with
    | (.took 0, s') => (.error endedEarly, body, s')
    | (.took (n + 1), s') => run file ⟨body.offset + (n + 1), body.remaining - (n + 1)⟩ s'
    | (.interrupted, s') => run file body s'
    | (.wouldBlock, s') => (.ok .blocked, body, s')
    | (.failed e, s') => (.error e, body, s')
  else (.ok .done, body, s)
termination_by (body.remaining, Sink.signals s)
decreasing_by
  · apply Prod.Lex.left
    omega
  · apply Prod.Lex.right
    have := step_signals (congrArg Prod.fst _hs)
    rwa [_hs] at this

end FileBody

end FileServer
