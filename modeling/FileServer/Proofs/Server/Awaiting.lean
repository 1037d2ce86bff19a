import FileServer.Proofs.Server.History

/-!
# What connections wait for

A server watches a socket for what the last handler of its connection wanted, and asks the
system again only when that changes. So a connection could wait for something that will never
come, if what a handler wants did not follow from the phase that it leaves behind. It does
(`Session.callAll_interest`): at every point of a run, every connection in the registry is
in order, not closed, and watched for just what its phase waits for
(`Server.Attentive`, `Server.Reached.awaits_phase`). One whose handler wanted it closed, or
that could not be watched in another way, is not in the registry.
-/

namespace FileServer

variable {S : Type}

theorem Phase.interest_eq_read {phase : Phase} :
    phase.interest = some .read ↔ phase ∈ [initial, receiving] := by
  cases phase <;> decide

theorem Phase.interest_eq_write {phase : Phase} :
    phase.interest = some .write ↔ phase ∈ [requestReceived, sendingNotFound, sendingHeader,
      sendingData, movingChunks, dataSent, headerSent, notFoundSent] := by
  cases phase <;> decide

/-- The connection is in order and waits for what its phase waits for. -/
structure Entry.Attentive (e : Entry S) : Prop where
  inOrder : e.connection.InOrder
  interest : e.connection.phase.interest = some e.interest

namespace Server

/-- All connections are attentive. -/
def Attentive (v : Server S) : Prop := ∀ r ∈ v.registry, r.2.Attentive

/-- The connection wants to wait for something else, and the system refuses. -/
def RearmFails [Socket S] (v : Server S) (tree : FileTree) (refusals : Refusals)
    (event : ReadyEvent) (e : Entry S) : Prop :=
  ∃ next interest error, Session.wishOf (v.callsOn tree event e).1 = some next ∧
    next.interest = some interest ∧ interest ≠ e.interest ∧
      v.poller.rearm refusals.rearm e.descriptor ⟨event.token, interest⟩ = .error error

variable [Socket S] {v v' : Server S} {turn : Turn} {history : List Turn} {e : Entry S}
  {event : ReadyEvent}

/-- What an event leaves of an attentive entry is attentive. -/
theorem attentive_after (he : e.Attentive) {tree : FileTree} {refusals : Refusals} {e' : Entry S}
    (h : (e.take (v.callsOn tree event e).2).after refusals
      (Session.wishOf (v.callsOn tree event e).1) = some e') : e'.Attentive := by
  have horder : (v.callsOn tree event e).2.connection.InOrder :=
    Session.callAll_preserves (motive := fun s => s.connection.InOrder)
      (fun signal hs => Session.inOrder_handle signal hs) event.signals he.inOrder
  cases hwish : Session.wishOf (v.callsOn tree event e).1 with
  | none =>
    rw [hwish] at h
    obtain rfl := Option.some.inj h
    -- Nothing was called, and the entry is the old one.
    have hsame : (v.callsOn tree event e).2 = v.session e :=
      Session.callAll_of_nil (Session.wishOf_eq_none hwish)
    rw [hsame]
    exact he
  | some next =>
    rw [hwish] at h
    obtain ⟨heq, hnext⟩ := Entry.after_eq_some h
    obtain ⟨hinterest, hclose⟩ := hnext next rfl
    rw [heq]
    refine ⟨horder, ?_⟩
    rw [← hinterest]
    exact Session.callAll_interest he.inOrder hwish hclose

theorem Step.attentive (hs : Step v turn v') (hstep : v.InStep) (hv : v.Attentive) :
    v'.Attentive := by
  intro r hr
  cases hs with
  | elapse waiting sockets notes =>
    obtain ⟨r', hr', rfl⟩ := List.mem_map.1 hr
    exact ⟨(hv r' hr').inOrder, (hv r' hr').interest⟩
  | accept a hroom =>
    rcases addConnection_cases hstep a with ⟨_, _, h⟩ | ⟨-, _, h⟩
    · rw [h] at hr
      exact hv r hr
    · rw [h] at hr
      rcases List.mem_append.1 hr with hr | hr
      · exact hv r hr
      · -- A new connection waits for something to read.
        rw [List.mem_singleton.1 hr]
        exact ⟨⟨⟨rfl, rfl, rfl, rfl⟩, rfl⟩, rfl⟩
  | dispatch tree refusals event =>
    cases he : v.entry? event.token with
    | none =>
      rw [dispatch_of_none he] at hr
      exact hv r hr
    | some e =>
      obtain ⟨_, h⟩ := dispatch_eq hstep he tree refusals
      rw [h] at hr
      -- Only the entry that the event is for changes.
      rcases Registry.mem_replace hr with ⟨hr, -⟩ | ⟨-, hr⟩
      · exact hv r hr
      · exact attentive_after (hv _ (mem_registry he)) hr

theorem Reached.attentive (hv : Reached history v) : v.Attentive := by
  induction hv with
  | bind h =>
    obtain ⟨-, -, -, -, hregistry, -⟩ := bind_eq_ok h
    rw [Attentive, hregistry]
    exact fun r hr => absurd hr List.not_mem_nil
  | step hv hs ih => exact hs.attentive hv.inStep ih

/-- A connection leaves when a handler wants it closed. -/
theorem entry?_dispatch_of_close (hv : v.InStep) (he : v.entry? event.token = some e)
    {tree : FileTree} {signal : Signal} (h : (signal, .close) ∈ (v.callsOn tree event e).1)
    (refusals : Refusals) : entry? (v.dispatch tree refusals event) event.token = none := by
  obtain ⟨front, back, hcalls⟩ := List.append_of_mem h
  obtain rfl := Session.eq_nil_of_callAll hcalls
  rw [entry?_dispatch_self hv he, hcalls, Session.wishOf, List.getLast?_concat]
  rfl

/-- A connection leaves when it cannot be watched as it wants. -/
theorem entry?_dispatch_of_rearmFails (hv : v.InStep) (he : v.entry? event.token = some e)
    {tree : FileTree} {refusals : Refusals} (h : v.RearmFails tree refusals event e) :
    entry? (v.dispatch tree refusals event) event.token = none := by
  obtain ⟨next, interest, error, hwish, hinterest, hne, hrearm⟩ := h
  -- In step, only the system can refuse.
  have hrefused : refusals.rearm.isSome := by
    cases hr : refusals.rearm with
    | some error => rfl
    | none =>
      rw [hr, hv.rearm_eq (mem_registry he)] at hrearm
      cases hrearm
  have hawait : (e.take (v.callsOn tree event e).2).await? refusals interest = none := by
    rw [Entry.await?]
    exact (if_neg hne).trans (if_pos hrefused)
  rw [entry?_dispatch_self hv he, hwish]
  cases next with
  | close => rfl
  | read | write =>
    obtain rfl := Option.some.inj hinterest
    exact hawait

/-- Every connection in the registry waits for something to read before its request is there,
    and to write from then on, and is watched for just that. One whose handler wants it
    closed, or that cannot be watched as it wants, is not in the registry. -/
theorem Reached.awaits_phase (hv : Reached history v) :
    (∀ token e, v.entry? token = some e →
      v.poller.watch? e.descriptor = some ⟨token, e.interest⟩ ∧
      (e.interest = .read ↔ e.connection.phase ∈ [.initial, .receiving]) ∧
      (e.interest = .write ↔ e.connection.phase ∈ [.requestReceived, .sendingNotFound,
        .sendingHeader, .sendingData, .movingChunks, .dataSent, .headerSent, .notFoundSent]) ∧
      e.connection.phase ≠ .closed) ∧
    ∀ tree refusals event e, v.entry? event.token = some e →
      (∃ signal, (signal, .close) ∈ (v.callsOn tree event e).1) ∨
          v.RearmFails tree refusals event e →
        entry? (v.dispatch tree refusals event) event.token = none := by
  constructor
  · -- What is waited for.
    intro token e he
    have hmem := mem_registry he
    have hinterest : e.connection.phase.interest = some e.interest := (hv.attentive _ hmem).interest
    refine ⟨hv.inStep.watch?_eq hmem, ?_, ?_, ?_⟩
    · rw [← Phase.interest_eq_read, hinterest, Option.some_inj]
    · rw [← Phase.interest_eq_write, hinterest, Option.some_inj]
    · intro hclosed
      rw [hclosed] at hinterest
      cases hinterest
  · -- Who leaves.
    rintro tree refusals event e he (⟨signal, hclose⟩ | hfails)
    · exact entry?_dispatch_of_close hv.inStep he hclose refusals
    · exact entry?_dispatch_of_rearmFails hv.inStep he hfails

end Server

namespace Callers

/-- The second client is heard. -/
def heard : Server Duplex := welcomed.dispatch tree {} (readable 2)

/-- What was seen of that. -/
def hearing : Turn := welcomed.dispatchTurn tree {} (readable 2)

theorem reached_heard : Server.Reached (arrivals ++ [hearing]) heard :=
  reached_welcomed.step (.dispatch welcomed tree {} (readable 2))

/-- What the second client sent is there at once. -/
theorem calls_hearing : ∃ s, welcomed.callsOn tree (readable 2) (Entry.admitted asker 2 2) =
    ([(.readable false, .write)], s) ∧ s.connection.phase = .requestReceived := by
  have hread : ∃ s, (welcomed.session (Entry.admitted asker 2 2)).handle ⟨{}, tree⟩
      (.readable false) = (.write, s) ∧ s.connection.phase = .requestReceived := by
    show ∃ s, Session.finish (Session.receive 8192 _) = (.write, s) ∧ _
    rw [Session.receive]
    exact ⟨_, rfl, rfl⟩
  obtain ⟨s, hs, hphase⟩ := hread
  refine ⟨s, ?_, hphase⟩
  have hne : ((welcomed.session (Entry.admitted asker 2 2)).handle ⟨{}, tree⟩
      (.readable false)).1 ≠ .close := by
    rw [hs]
    intro h
    cases h
  refine (Session.callAll_cons_of_ne hne).trans ?_
  rw [hs]
  rfl

theorem entry?_heard : ∃ e, heard.entry? 2 = some e ∧ e.interest = .write ∧
    e.connection.phase = .requestReceived := by
  obtain ⟨s, hcalls, hphase⟩ := calls_hearing
  have he : welcomed.entry? (readable 2).token = some (Entry.admitted asker 2 2) := rfl
  have hself := Server.entry?_dispatch_self reached_welcomed.inStep he tree {}
  rw [hcalls] at hself
  exact ⟨_, hself, rfl, hphase⟩

theorem settings_heard : heard.settings = {} := by
  have he : welcomed.entry? (readable 2).token = some (Entry.admitted asker 2 2) := rfl
  obtain ⟨_, h⟩ := Server.dispatch_eq reached_welcomed.inStep he tree {}
  rw [heard, h]
  rfl

end Callers

/-- One of two clients has sent what is to be answered and waits to be written to, and the other
    hangs up. -/
theorem Server.awaits_phase_heard :
    Reached (Callers.arrivals ++ [Callers.hearing]) Callers.heard ∧
      (∃ e, Callers.heard.entry? 2 = some e ∧
        Callers.heard.poller.watch? e.descriptor = some ⟨2, .write⟩) ∧
      entry? (Callers.heard.dispatch Callers.tree {} (Callers.readable 1)) 1 = none := by
  obtain ⟨hwaits, hleaves⟩ := Reached.awaits_phase Callers.reached_heard
  obtain ⟨e, he, hinterest, -⟩ := Callers.entry?_heard
  have hwatch := (hwaits 2 e he).1
  rw [hinterest] at hwatch
  have hquitter : Callers.heard.entry? 1 = some (Entry.admitted Callers.quitter 1 1) :=
    entry?_dispatch_of_ne Callers.reached_welcomed.inStep (by decide)
  have hclose : (.readable false, .close) ∈ (Callers.heard.callsOn Callers.tree
      (Callers.readable 1) (Entry.admitted Callers.quitter 1 1)).1 := by
    rw [Callers.calls_quitter Callers.settings_heard]
    exact List.mem_singleton.2 rfl
  exact ⟨Callers.reached_heard, ⟨e, he, hwatch⟩,
    hleaves Callers.tree {} (Callers.readable 1) _ hquitter (.inl ⟨_, hclose⟩)⟩

end FileServer
