import FileServer.Proofs.Server.Run
import FileServer.Socket.Duplex

/-!
# The registry over a run

What the poller watches and what the registry holds agree at every point of a run, whatever
the system refuses (`Server.Reached.registry_in_step`). The turns of a run tell what became
of the connections:

* the tokens that were given out count up, and none is given out twice, as long as they are
  fewer than there are numbers (`Server.Numbered`);
* a connection leaves the registry in an event of its own, at once when one of its handlers
  wants it closed; from then on it neither leaves again nor is any handler of it called,
  unless its token is given to another connection (`Orderly`).

At the end two clients come, and one hangs up and is forgotten (`Callers`).
-/

namespace FileServer

variable {S : Type}

/-- The tokens that were given out. -/
def allotted (history : List Turn) : List UInt64 := history.flatMap (·.given)

/-- The tokens under which connections came into the registry. -/
def registered (history : List Turn) : List UInt64 := history.flatMap (·.came)

/-- Connections leave once, in an event of their own, and are left alone from then on. -/
structure Orderly (history : List Turn) : Prop where
  /-- A connection leaves only in an event of its own. -/
  own : ∀ turn ∈ history, ∀ token ∈ turn.left, turn.subject = some token
  /-- Behind a handler that wants its connection closed none is called, and the connection
      leaves. -/
  closes : ∀ turn ∈ history, ∀ front signal back, turn.calls = front ++ (signal, .close) :: back →
    back = [] ∧ ∃ token, turn.subject = some token ∧ token ∈ turn.left
  /-- A connection that left does not leave again, and no handler of it is called, before its
      token is given to another. -/
  once : ∀ front turn back token, history = front ++ turn :: back → token ∈ turn.left →
    (∀ later ∈ back, token ∉ later.came) →
      ∀ later ∈ back, token ∉ later.left ∧ (later.subject = some token → later.calls = [])

/-- A turn of a history is the last one or one of those before. -/
theorem append_singleton_eq {history front back : List Turn} {turn last : Turn}
    (h : history ++ [last] = front ++ turn :: back) :
    turn = last ∧ back = [] ∨ ∃ back', back = back' ++ [last] ∧ history = front ++ turn :: back' := by
  rcases List.eq_nil_or_concat back with rfl | ⟨back, last', rfl⟩
  · obtain ⟨-, hlast⟩ := List.append_inj' h rfl
    exact .inl ⟨(List.singleton_inj.1 hlast).symm, rfl⟩
  · rw [List.concat_eq_append, ← List.cons_append, ← List.append_assoc] at h
    obtain ⟨hhistory, hlast⟩ := List.append_inj' h rfl
    obtain rfl := List.singleton_inj.1 hlast
    exact .inr ⟨back, List.concat_eq_append, hhistory⟩

theorem allotted_append (history : List Turn) (turn : Turn) :
    allotted (history ++ [turn]) = allotted history ++ turn.given := by
  rw [allotted, List.flatMap_append, List.flatMap_singleton]
  rfl

namespace Server

/-- The tokens that were given out count up to the next one, and the connections have some of
    them. -/
structure Numbered (v : Server S) (history : List Turn) : Prop where
  next : v.nextToken.toNat = (allotted history).length + 1
  below : ∀ token ∈ allotted history, token < v.nextToken
  nodup : (allotted history).Nodup
  tokens : v.tokens ⊆ allotted history

/-- The next token is free, so it is taken. -/
theorem Numbered.takeToken_eq {v : Server S} {history : List Turn} (hn : v.Numbered history) :
    v.takeToken.1 = v.nextToken := by
  refine takeToken_of_isFree (isFree_iff.2 ⟨fun h => ?_, fun h => ?_⟩)
  · have hnext := hn.next
    rw [h] at hnext
    exact absurd hnext (Nat.succ_ne_zero _).symm
  · exact UInt64.lt_irrefl _ (hn.below _ (hn.tokens h))

variable [Socket S] {v v' : Server S} {turn : Turn} {history : List Turn}

/-! ### Tokens -/

/-- A turn gives out the token that is taken, or none, and the connections have no others. -/
theorem Step.given_cases (hs : Step v turn v') (hv : v.InStep) :
    v'.tokens ⊆ v.tokens ++ turn.given ∧
      (turn.given = [] ∧ v'.nextToken = v.nextToken ∨
        turn.given = [v.takeToken.1] ∧ v'.nextToken = v.takeToken.1 + 1) := by
  cases hs with
  | elapse waiting sockets notes =>
    rw [tokens_elapse, List.append_nil]
    exact ⟨List.Subset.refl _, .inl ⟨rfl, rfl⟩⟩
  | accept a hroom =>
    -- A token is taken if the connection is one that does not block.
    constructor
    · rcases tokens_addConnection hv a with h | ⟨hblocking, h⟩
      · rw [h]
        exact List.subset_append_left _ _
      · rw [h, acceptTurn, if_pos hblocking]
        exact List.Subset.refl _
    · rw [acceptTurn, nextToken_addConnection]
      by_cases hblocking : a.blocking = none
      · rw [if_pos hblocking, if_pos hblocking]
        exact .inr ⟨rfl, rfl⟩
      · rw [if_neg hblocking, if_neg hblocking]
        exact .inl ⟨rfl, rfl⟩
  | dispatch tree refusals event =>
    refine ⟨List.Subset.trans (tokens_dispatch_subset hv) (List.subset_append_left _ _),
      .inl ⟨rfl, ?_⟩⟩
    cases he : v.entry? event.token with
    | none => rw [dispatch_of_none he]
    | some e =>
      obtain ⟨_, h⟩ := dispatch_eq hv he tree refusals
      rw [h]
      rfl

theorem Step.numbered (hs : Step v turn v') (hv : v.InStep) (hn : v.Numbered history)
    (hfew : (allotted (history ++ [turn])).length + 1 < UInt64.size) :
    v'.Numbered (history ++ [turn]) := by
  obtain ⟨htokens, ⟨hgiven, hnext⟩ | ⟨hgiven, hnext⟩⟩ := hs.given_cases hv
  · have heq : allotted (history ++ [turn]) = allotted history := by
      rw [allotted_append, hgiven, List.append_nil]
    rw [hgiven, List.append_nil] at htokens
    refine ⟨?_, ?_, ?_, ?_⟩
    · rw [heq, hnext]
      exact hn.next
    · rw [heq, hnext]
      exact hn.below
    · rw [heq]
      exact hn.nodup
    · rw [heq]
      exact List.Subset.trans htokens hn.tokens
  -- The token that is given out is the next one, and it is greater than those before.
  · have heq : allotted (history ++ [turn]) = allotted history ++ [v.takeToken.1] := by
      rw [allotted_append, hgiven]
    rw [heq, List.length_append, List.length_singleton] at hfew
    rw [hn.takeToken_eq] at heq hnext hgiven
    have hsucc : v'.nextToken.toNat = v.nextToken.toNat + 1 := by
      rw [hnext, UInt64.toNat_add, hn.next]
      exact Nat.mod_eq_of_lt hfew
    have hlt : v.nextToken < v'.nextToken := by
      rw [UInt64.lt_iff_toNat_lt, hsucc]
      exact Nat.lt_succ_self _
    refine ⟨?_, ?_, ?_, ?_⟩
    · rw [heq, List.length_append, hsucc, hn.next]
      rfl
    · rw [heq]
      intro token h
      rcases List.mem_append.1 h with h | h
      · exact UInt64.lt_trans (hn.below token h) hlt
      · rw [List.mem_singleton.1 h]
        exact hlt
    · rw [heq]
      refine List.nodup_append_comm.1 (List.nodup_cons.2 ⟨fun h => ?_, hn.nodup⟩)
      exact UInt64.lt_irrefl _ (hn.below _ h)
    · rw [heq]
      rw [hgiven] at htokens
      exact List.Subset.trans htokens (List.append_subset.2 ⟨List.subset_append_of_subset_left _ hn.tokens,
        List.subset_append_right _ _⟩)

theorem Reached.numbered (hv : Reached history v)
    (hfew : (allotted history).length + 1 < UInt64.size) : v.Numbered history := by
  induction hv with
  | bind h =>
    obtain ⟨-, -, -, -, hregistry, hnext⟩ := bind_eq_ok h
    refine ⟨?_, ?_, ?_, ?_⟩
    · rw [hnext]
      rfl
    · exact fun token h => absurd h List.not_mem_nil
    · exact List.nodup_nil
    · rw [tokens, hregistry]
      exact List.Subset.refl _
  | step hv hs ih =>
    refine hs.numbered hv.inStep (ih ?_) hfew
    rw [allotted_append, List.length_append] at hfew
    omega

/-- What came into the registry was given out. -/
theorem Reached.registered_sublist (hv : Reached history v) :
    (registered history).Sublist (allotted history) := by
  induction hv with
  | bind => exact List.Sublist.refl []
  | step hv hs ih =>
    rw [allotted_append, registered, List.flatMap_append, List.flatMap_singleton]
    exact ih.append (hs.came_sublist hv.inStep)

/-! ### Connections that left -/

/-- A connection that left is not in the registry before its token is given to another, and
    nothing happens to it. -/
theorem Reached.left_alone (hv : Reached history v) {front back : List Turn} {token : UInt64}
    (h : history = front ++ turn :: back) (hleft : token ∈ turn.left)
    (hcame : ∀ later ∈ back, token ∉ later.came) :
    token ∉ v.tokens ∧
      ∀ later ∈ back, token ∉ later.left ∧ (later.subject = some token → later.calls = []) := by
  induction hv generalizing back with
  | bind => exact absurd h.symm (List.append_ne_nil_of_right_ne_nil _ (List.cons_ne_nil _ _))
  | @step history new v v' hv hs ih =>
    rcases append_singleton_eq h with ⟨rfl, rfl⟩ | ⟨back, rfl, rfl⟩
    -- This is the turn in which the connection leaves.
    · exact ⟨(hs.mem_left.1 hleft).2, fun later h => absurd h List.not_mem_nil⟩
    -- The connection left before.
    · obtain ⟨hnot, hback⟩ := ih rfl fun later h => hcame later (List.mem_append_left _ h)
      have hnew : token ∉ new.came :=
        hcame new (List.mem_append_right _ (List.mem_singleton.2 rfl))
      refine ⟨fun hmem => hnew (hs.mem_came.2 ⟨hmem, hnot⟩), fun later h => ?_⟩
      rcases List.mem_append.1 h with h | h
      · exact hback later h
      · rw [List.mem_singleton.1 h]
        exact ⟨fun h => hnot (hs.mem_left.1 h).1, fun h => hs.calls_of_absent h hnot⟩

theorem Reached.orderly (hv : Reached history v) : Orderly history := by
  have hturn : ∀ turn ∈ history, ∃ v v' : Server S, v.InStep ∧ Step v turn v' := by
    induction hv with
    | bind => exact fun turn h => absurd h List.not_mem_nil
    | step hv hs ih =>
      intro turn h
      rcases List.mem_append.1 h with h | h
      · exact ih turn h
      · rw [List.mem_singleton.1 h]
        exact ⟨_, _, hv.inStep, hs⟩
  refine ⟨?_, ?_, ?_⟩
  · intro turn h token hleft
    obtain ⟨v, v', hv, hs⟩ := hturn turn h
    exact hs.subject_of_mem_left hv hleft
  · intro turn h front signal back hcalls
    obtain ⟨v, v', hv, hs⟩ := hturn turn h
    exact hs.closes hv hcalls
  · intro front turn back token h hleft hcame
    exact (hv.left_alone h hleft hcame).2

/-- Through every run registry and poller agree, tokens are not given out twice as long as the
    numbers last, and connections leave once and are left alone from then on. What is told of
    the calls of an event is just what its handlers do. -/
theorem Reached.registry_in_step (hv : Reached history v) :
    v.InStep ∧ (registered history).Sublist (allotted history) ∧ Orderly history ∧
      (∀ tree event e, runHandlers ⟨v.settings, tree⟩ event (v.session e) =
        (Session.wishOf (v.callsOn tree event e).1, (v.callsOn tree event e).2)) ∧
      ((allotted history).length + 1 < UInt64.size →
        (∀ token ∈ v.tokens, token < v.nextToken) ∧ (allotted history).Nodup) := by
  refine ⟨hv.inStep, hv.registered_sublist, hv.orderly, v.runHandlers_eq_callsOn, fun hfew => ?_⟩
  have hn := hv.numbered hfew
  exact ⟨fun token h => hn.below token (hn.tokens h), hn.nodup⟩

end Server

/-! ### Two clients -/

namespace Callers

/-- The server when nobody has said anything about it. -/
def started : Server Duplex where
  settings := {}
  endpoint := ⟨⟨0, 0, 0, 0⟩, 8888⟩
  poller := ⟨[(Server.listenerDescriptor, Server.listenerWatch)]⟩
  engine := {}
  notes := [Server.waitingNote {} ⟨⟨0, 0, 0, 0⟩, 8888⟩]

/-- There are no files. -/
def tree : FileTree := ⟨[], [], 0, []⟩

/-- A client that sends nothing and hangs up. -/
def quitter : Arrival Duplex := { socket := { ended := true }, peer := "10.0.0.1:4000" }

/-- A client that sends a head that is no request. -/
def asker : Arrival Duplex := { socket := { inbound := [63, 13, 10, 13, 10] }, peer := "10.0.0.2:4000" }

/-- One is accepted, and then the other. -/
def welcomed : Server Duplex := (started.addConnection quitter).addConnection asker

/-- Something can be read of a client. -/
def readable (token : UInt64) : ReadyEvent := ⟨token, true, false, false⟩

/-- The first is forgotten. -/
def parted : Server Duplex := welcomed.dispatch tree {} (readable 1)

theorem bind_default : Server.bind {} {} = .ok (started, ⟨[⟨⟨0, 0, 0, 0⟩, 8888⟩], 32768⟩) := by
  rw [Server.bind, Settings.check_default, Settings.address_default]
  rfl

/-- What was seen when the two came. -/
def arrivals : List Turn :=
  [started.acceptTurn quitter, (started.addConnection quitter).acceptTurn asker]

theorem reached_welcomed : Server.Reached arrivals welcomed :=
  ((Server.Reached.bind bind_default).step (.accept started quitter (by decide))).step
    (.accept (started.addConnection quitter) asker (by decide))

/-- What was seen when the first hung up. -/
def departure : Turn := welcomed.dispatchTurn tree {} (readable 1)

/-- The first read brings the end. -/
theorem calls_quitter {v : Server Duplex} (hv : v.settings = {}) :
    (v.callsOn tree (readable 1) (Entry.admitted quitter 1 1)).1 = [(.readable false, .close)] := by
  have hread : ((v.session (Entry.admitted quitter 1 1)).handle ⟨{}, tree⟩
      (.readable false)).1 = .close := by
    show (Session.finish (Session.receive 8192 _)).1 = _
    rw [Session.receive]
    rfl
  rw [Server.callsOn, hv]
  exact congrArg Prod.fst (Session.callAll_cons_of_close hread)

theorem calls_departure : departure.calls = [(.readable false, .close)] := calls_quitter rfl

theorem reached_parted : Server.Reached (arrivals ++ [departure]) parted :=
  reached_welcomed.step (.dispatch welcomed tree {} (readable 1))

end Callers

/-- The first of two clients hangs up and is forgotten. -/
theorem Server.registry_in_step_parted :
    Server.Reached (Callers.arrivals ++ [Callers.departure]) Callers.parted ∧
      (allotted (Callers.arrivals ++ [Callers.departure])).length + 1 < UInt64.size ∧
      Callers.parted.InStep ∧ 1 ∈ Callers.departure.left ∧
      ∀ token ∈ Callers.parted.tokens, token < Callers.parted.nextToken := by
  have hfew : (allotted (Callers.arrivals ++ [Callers.departure])).length + 1 < UInt64.size := by
    decide
  obtain ⟨hstep, -, horder, -, hnumbers⟩ := Reached.registry_in_step Callers.reached_parted
  have hlast : Callers.departure ∈ Callers.arrivals ++ [Callers.departure] :=
    List.mem_append_right _ (List.mem_singleton.2 rfl)
  obtain ⟨-, token, hsubject, hleft⟩ :=
    horder.closes Callers.departure hlast [] (.readable false) [] Callers.calls_departure
  obtain rfl := Option.some.inj hsubject
  exact ⟨Callers.reached_parted, hfew, hstep, hleft, (hnumbers hfew).1⟩

end FileServer
