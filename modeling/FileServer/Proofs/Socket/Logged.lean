import FileServer.Proofs.Socket.Recorded

/-!
# Sinks with a log

`Logged S` is a sink that behaves as one of the type `S` does and writes down each offer that
is made to it: the bytes, and what became of them. What a sink has taken follows from the
offers (`Offer.taken`), and so does whether each of them went on where those before it had
stopped (`Offer.InTurn`).
-/

namespace FileServer

/-- Bytes that were offered, and what became of them. -/
structure Offer where
  bytes : Bytes
  outcome : Sending

namespace Offer

/-- The bytes that were taken of an offer. -/
def part (o : Offer) : Bytes := o.outcome.part o.bytes

/-- The bytes that were taken of a row of offers, first byte first. -/
def taken (offers : List Offer) : Bytes := offers.flatMap part

@[simp] theorem taken_nil : taken [] = [] := rfl

@[simp] theorem taken_cons (o : Offer) (offers : List Offer) :
    taken (o :: offers) = o.part ++ taken offers := rfl

@[simp] theorem taken_append (offers later : List Offer) :
    taken (offers ++ later) = taken offers ++ taken later := List.flatMap_append

/-- Each offer is of all the bytes that no offer before it took, and there are some. -/
def InTurn (rest : Bytes) : List Offer → Prop
  | [] => True
  | o :: offers => o.bytes = rest ∧ rest ≠ [] ∧ InTurn (rest.drop o.part.length) offers

theorem inTurn_append {rest : Bytes} {offers later : List Offer} :
    InTurn rest (offers ++ later) ↔
      InTurn rest offers ∧ InTurn (rest.drop (taken offers).length) later := by
  induction offers generalizing rest with
  | nil => simp [InTurn]
  | cons o offers ih => simp [InTurn, ih, and_assoc]

end Offer

/-- A sink and the offers that were made to it, first one first. -/
structure Logged (S : Type) where
  inner : S
  offers : List Offer := []

namespace Logged

variable {S : Type}

instance [Sink S] : Sink (Logged S) where
  send s bs :=
    let (r, inner) := Sink.send s.inner bs
    (r, ⟨inner, s.offers ++ [⟨bs, r⟩]⟩)
  fault s := Sink.fault s.inner
  signals s := Sink.signals s.inner
  send_took_le s := Sink.send_took_le s.inner
  send_signals s := Sink.send_signals s.inner

/-- An offer is written down. -/
theorem offers_send [Sink S] {s s' : Logged S} {bs : Bytes} {r : Sending}
    (h : Sink.send s bs = (r, s')) : s'.offers = s.offers ++ [⟨bs, r⟩] := by
  obtain ⟨rfl, rfl⟩ := Prod.mk.inj h
  rfl

end Logged

end FileServer
