import FileServer.Socket

/-!
# Sockets that a stream comes in through

`Fed S` is a socket through which a stream of bytes comes in. When bytes come, and how
many at a time, when it blocks, is cut short or fails, is decided by an inner socket of
the type `S`; which bytes they are is decided by the stream. It counts the reads that
came to something. So whatever a peer sends is a stream, and whatever way it arrives in is
an inner socket.
-/

namespace FileServer

variable {S : Type}

/-- A socket and the stream that comes in through it. -/
structure Fed (S : Type) where
  inner : S
  /-- What is still to come of the stream. -/
  rest : Bytes
  /-- How many reads came to something, if only to the end. -/
  reads : Nat := 0

namespace Fed

instance [Sink S] : Sink (Fed S) where
  send s bs :=
    let (r, inner) := Sink.send s.inner bs
    (r, { s with inner := inner })
  fault s := Sink.fault s.inner
  signals s := Sink.signals s.inner
  send_took_le s := Sink.send_took_le s.inner
  send_signals s := Sink.send_signals s.inner

/-- Asks for at most so many bytes. Where the inner socket gives some, as many of the stream
    come. -/
def receive [Socket S] (s : Fed S) (n : Nat) : Receiving × Fed S :=
  match Socket.receive s.inner n with
  | (.came bs, inner) =>
    (.came (s.rest.take bs.length), ⟨inner, s.rest.drop bs.length, s.reads + 1⟩)
  | (r, inner) => (r, { s with inner := inner })

/-- What is left of a socket and its stream behind a read. -/
theorem receive_eq [Socket S] {s s' : Fed S} {n : Nat} {r : Receiving} (h : s.receive n = (r, s')) :
    match r with
    | .came bs => bs.length ≤ n ∧ s.rest = bs ++ s'.rest ∧ s'.reads = s.reads + 1
    | _ => s'.rest = s.rest ∧ s'.reads = s.reads := by
  rw [receive] at h
  split at h
  · rename_i bs inner hr
    obtain ⟨rfl, rfl⟩ := Prod.mk.inj h
    have hle := Socket.receive_came_le s.inner n bs (by rw [hr])
    refine ⟨?_, (List.take_append_drop _ _).symm, rfl⟩
    rw [List.length_take]
    exact Nat.le_trans (Nat.min_le_left _ _) hle
  · rename_i r' inner hne hr
    obtain ⟨rfl, rfl⟩ := Prod.mk.inj h
    cases r' with
    | came bs => exact absurd rfl (hne bs)
    | _ => exact ⟨rfl, rfl⟩

instance [Socket S] : Socket (Fed S) where
  receive := receive
  receive_came_le s n bs h := by
    rcases hr : s.receive n with ⟨r, s'⟩
    rw [hr] at h
    cases h
    exact (receive_eq hr).1
  receive_signals s n h := by
    rw [receive] at h ⊢
    split at h
    · cases h
    · rename_i r inner hne hr
      cases h
      have := Socket.receive_signals s.inner n (by rw [hr])
      rw [hr] at this
      exact this

end Fed

/-! ### Portions -/

/-- A socket that takes everything. At each read it gives at most as many bytes as the next
    portion has, and it blocks when there is none left. -/
structure Portioned where
  portions : List Nat

namespace Portioned

/-- Gives a portion. -/
def receive (s : Portioned) (n : Nat) : Receiving × Portioned :=
  match s.portions with
  | [] => (.wouldBlock, s)
  | count :: portions => (.came (List.replicate (min count n) 0), ⟨portions⟩)

instance : Socket Portioned where
  send s bs := (.took bs.length, s)
  fault _ := none
  signals _ := 0
  send_took_le s bs n h := by
    cases h
    exact Nat.le_refl _
  send_signals _ _ h := by cases h
  receive := receive
  receive_came_le s n bs h := by
    rw [receive] at h
    split at h
    · cases h
    · cases h
      rw [List.length_replicate]
      exact Nat.min_le_right _ _
  receive_signals s n h := by
    rw [receive] at h
    split at h <;> cases h

end Portioned

end FileServer
