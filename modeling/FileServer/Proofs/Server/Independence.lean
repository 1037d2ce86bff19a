import FileServer.Proofs.Connection.Alike
import FileServer.Proofs.Server.Awaiting

/-!
# Connections do not interfere

All connections share one engine, one registry and one poller. Still it makes no difference in
which order the events of a batch are handled, as long as no two are of the same connection
(`Server.Reached.handleEach_perm`). For at every point of a run no completion waits in the
engine (`Server.Reached.quiet`); so what an event calls depends on nothing but the
connection that it is for (`Server.LikeFor`), and its effect is to put something else under
one token and to spend some tags of the engine. Two such effects can change places
(`Server.dispatch_swap`), but for the order of the notes.
-/

namespace FileServer

variable {S : Type}

/-- Two servers that differ in nothing but their notes. -/
def Server.Agrees (v v' : Server S) : Prop := ∃ notes, v' = { v with notes := notes }

theorem Server.Agrees.refl (v : Server S) : Agrees v v := ⟨v.notes, rfl⟩

theorem Server.Agrees.trans {v v' v'' : Server S} (h : Agrees v v') (h' : Agrees v' v'') :
    Agrees v v'' := by
  obtain ⟨_, rfl⟩ := h
  obtain ⟨notes, rfl⟩ := h'
  exact ⟨notes, rfl⟩

/-- What is put under two tokens can be put there in either order. -/
theorem Server.settle_comm (v : Server S) {token token' : UInt64} (h : token ≠ token')
    (o o' : Option (Entry S)) (engine engine₁ engine₂ : Engine) (n n' m m' : List Note) :
    Agrees ((v.settle token o engine₁ n).settle token' o' engine m)
      ((v.settle token' o' engine₂ n').settle token o engine m') := by
  refine ⟨m', ?_⟩
  simp only [settle, Registry.replace_comm h]

variable [Socket S]

/-- The handlers of an event go the same way. -/
theorem Session.Alike.callAll {e e' : Engine} {s s' : Session S} (h : Alike e e' s s')
    (site : Site) (signals : List Signal) :
    EndAlike e e' (s.callAll site signals) (s'.callAll site signals) := by
  induction signals generalizing s s' with
  | nil => exact ⟨rfl, h⟩
  | cons signal rest ih =>
    have hcall := h.handle site signal
    by_cases hclose : (s.handle site signal).1 = .close
    · rw [callAll_cons_of_close hclose, callAll_cons_of_close (hcall.result.trans hclose)]
      exact ⟨rfl, hcall.session⟩
    · have hclose' : (s'.handle site signal).1 ≠ .close := hcall.result ▸ hclose
      have hrest := ih hcall.session
      rw [callAll_cons_of_ne hclose, callAll_cons_of_ne hclose', hcall.result]
      exact ⟨congrArg (List.cons _) hrest.result, hrest.session⟩

namespace Server

/-- What an event leaves of the entry that it is for. -/
def outcome (v : Server S) (tree : FileTree) (refusals : Refusals) (event : ReadyEvent) :
    Option (Entry S) :=
  match v.entry? event.token with
  | none => none
  | some e => (e.take (v.callsOn tree event e).2).after refusals
      (Session.wishOf (v.callsOn tree event e).1)

/-- The engine that an event leaves. -/
def engineAfter (v : Server S) (tree : FileTree) (event : ReadyEvent) : Engine :=
  match v.entry? event.token with
  | none => v.engine
  | some e => (v.callsOn tree event e).2.engine

/-- The socket that the handlers of an event leave, also where its connection is then torn down. -/
def reply? (v : Server S) (tree : FileTree) (event : ReadyEvent) : Option S :=
  match v.entry? event.token with
  | none => none
  | some e => some (runHandlers ⟨v.settings, tree⟩ event (v.session e)).2.socket

/-- Handles events one after the other, where the system may refuse something else each time. -/
def handleEach (v : Server S) (tree : FileTree) (batch : List (Refusals × ReadyEvent)) : Server S :=
  batch.foldl (fun v b => v.handle tree b.1 b.2) v

/-- Two servers that are the same to the events of a connection. -/
structure LikeFor (token : UInt64) (v v' : Server S) : Prop where
  settings : v'.settings = v.settings
  entry : v'.entry? token = v.entry? token
  quiet : v.engine.waiting = []
  quiet' : v'.engine.waiting = []

variable {v v' : Server S} {tree : FileTree} {refusals refusals' : Refusals}
  {event event' : ReadyEvent} {turn : Turn} {history : List Turn}

/-! ### What an event depends on -/

/-- Handlers go the same way on servers that are the same to their connection. -/
theorem LikeFor.callsOn {token : UInt64} (h : LikeFor token v v') (tree : FileTree)
    (event : ReadyEvent) (e : Entry S) :
    Session.EndAlike v.engine v'.engine (v.callsOn tree event e) (v'.callsOn tree event e) := by
  have hsession : Session.Alike v.engine v'.engine (v.session e) (v'.session e) :=
    ⟨rfl, rfl, h.quiet, h.quiet', 0, 0, rfl, rfl⟩
  rw [Server.callsOn, Server.callsOn, h.settings]
  exact hsession.callAll _ _

theorem LikeFor.outcome_eq (h : LikeFor event.token v v') :
    v'.outcome tree refusals event = v.outcome tree refusals event := by
  rw [outcome, outcome, h.entry]
  cases v.entry? event.token with
  | none => rfl
  | some e =>
    have hcalls := h.callsOn tree event e
    dsimp only
    rw [Entry.take, Entry.take, hcalls.result, hcalls.session.connection, hcalls.session.socket]

theorem LikeFor.reply?_eq (h : LikeFor event.token v v') :
    v'.reply? tree event = v.reply? tree event := by
  rw [reply?, reply?, h.entry]
  cases v.entry? event.token with
  | none => rfl
  | some e =>
    dsimp only
    rw [runHandlers_eq, runHandlers_eq]
    exact congrArg some (h.callsOn tree event e).session.socket

/-- Both engines are given the same to do. -/
theorem LikeFor.engineAfter (h : LikeFor event.token v v') (tree : FileTree) :
    Engine.Alike v.engine v'.engine (v.engineAfter tree event) (v'.engineAfter tree event) := by
  rw [Server.engineAfter, Server.engineAfter, h.entry]
  cases v.entry? event.token with
  | none => exact ⟨h.quiet, h.quiet', 0, 0, rfl, rfl⟩
  | some e => exact (h.callsOn tree event e).session.engine

/-! ### What an event changes -/

/-- What an event does, also where its connection is there no more. -/
theorem dispatch_eq_settle (hv : v.InStep) (tree : FileTree) (refusals : Refusals)
    (event : ReadyEvent) : ∃ notes, v.dispatch tree refusals event =
      v.settle event.token (v.outcome tree refusals event) (v.engineAfter tree event) notes := by
  cases he : v.entry? event.token with
  | none =>
    refine ⟨v.notes, ?_⟩
    rw [dispatch_of_none he, outcome, engineAfter, he, settle,
      Registry.replace_of_notMem (entry?_eq_none.1 he), ← hv.watches]
  | some e =>
    obtain ⟨notes, h⟩ := dispatch_eq hv he tree refusals
    refine ⟨notes, ?_⟩
    rw [h, outcome, engineAfter, he]

theorem engine_dispatch (hv : v.InStep) (tree : FileTree) (refusals : Refusals)
    (event : ReadyEvent) :
    (v.dispatch tree refusals event).engine = v.engineAfter tree event := by
  obtain ⟨_, h⟩ := dispatch_eq_settle hv tree refusals event
  rw [h]
  rfl

theorem settings_dispatch (hv : v.InStep) :
    (v.dispatch tree refusals event).settings = v.settings := by
  obtain ⟨_, h⟩ := dispatch_eq_settle hv tree refusals event
  rw [h]
  rfl

/-- An event leaves no completion in the engine. -/
theorem quiet_dispatch (hv : v.InStep) (hq : v.engine.waiting = []) :
    (v.dispatch tree refusals event).engine.waiting = [] := by
  rw [engine_dispatch hv tree, engineAfter]
  cases v.entry? event.token with
  | none => exact hq
  | some e =>
    exact Session.callAll_preserves (motive := fun s => s.engine.waiting = [])
      (fun signal hs => Session.waiting_handle _ signal hs) event.signals hq

/-- At every point of a run no completion waits in the engine. -/
theorem Reached.quiet (hv : Reached history v) : v.engine.waiting = [] := by
  induction hv with
  | bind h => rw [(bind_eq_ok h).2.2.2.1]
  | step hv hs ih =>
    cases hs with
    | elapse => exact ih
    | accept a hroom =>
      rcases addConnection_cases hv.inStep a with ⟨_, _, h⟩ | ⟨-, _, h⟩
      all_goals
        rw [h]
        exact ih
    | dispatch tree refusals event => exact quiet_dispatch hv.inStep ih

/-- To the other connections a server is the same before and after an event. -/
theorem likeFor_dispatch (hv : v.InStep) (hq : v.engine.waiting = []) {token : UInt64}
    (h : token ≠ event.token) : LikeFor token v (v.dispatch tree refusals event) :=
  ⟨settings_dispatch hv, entry?_dispatch_of_ne hv h, hq, quiet_dispatch hv hq⟩

/-! ### Two events -/

/-- Notes are not looked at. -/
theorem Agrees.dispatch (h : Agrees v v') (hv : v.InStep) (hq : v.engine.waiting = [])
    (tree : FileTree) (refusals : Refusals) (event : ReadyEvent) :
    Agrees (v.dispatch tree refusals event) (v'.dispatch tree refusals event) := by
  obtain ⟨notes, rfl⟩ := h
  have hv' : { v with notes := notes }.InStep :=
    ⟨hv.watches, hv.descriptors, hv.tokens, hv.listener, hv.token_eq⟩
  have hlike : LikeFor event.token v { v with notes := notes } := ⟨rfl, rfl, hq, hq⟩
  obtain ⟨_, hdispatch⟩ := dispatch_eq_settle hv tree refusals event
  obtain ⟨_, hdispatch'⟩ := dispatch_eq_settle hv' tree refusals event
  -- The engine was the same, and it was given the same to do.
  have hengine : { v with notes := notes }.engineAfter tree event = v.engineAfter tree event := by
    obtain ⟨-, -, _, _, h, h'⟩ := hlike.engineAfter tree
    exact h'.trans h.symm
  rw [hdispatch, hdispatch', hlike.outcome_eq, hengine]
  exact ⟨_, rfl⟩

/-- Events of two connections can be handled in either order. -/
theorem dispatch_swap (hv : v.InStep) (hq : v.engine.waiting = [])
    (h : event.token ≠ event'.token) :
    Agrees ((v.dispatch tree refusals event).dispatch tree refusals' event')
      ((v.dispatch tree refusals' event').dispatch tree refusals event) := by
  have hlike : LikeFor event'.token v (v.dispatch tree refusals event) :=
    likeFor_dispatch hv hq h.symm
  have hlike' : LikeFor event.token v (v.dispatch tree refusals' event') :=
    likeFor_dispatch hv hq h
  obtain ⟨_, hfirst⟩ := dispatch_eq_settle hv tree refusals event
  obtain ⟨_, hfirst'⟩ := dispatch_eq_settle hv tree refusals' event'
  obtain ⟨_, hsecond⟩ :=
    dispatch_eq_settle (hv.dispatch tree refusals event) tree refusals' event'
  obtain ⟨_, hsecond'⟩ :=
    dispatch_eq_settle (hv.dispatch tree refusals' event') tree refusals event
  -- What the events cost the engine adds up, in either order.
  have hengine : (v.dispatch tree refusals' event').engineAfter tree event =
      (v.dispatch tree refusals event).engineAfter tree event' := by
    have hspent := hlike.engineAfter tree
    have hspent' := hlike'.engineAfter tree
    rw [← engine_dispatch hv tree refusals' event'] at hspent
    rw [← engine_dispatch hv tree refusals event] at hspent'
    exact (hspent.swap hspent').symm
  rw [hsecond, hsecond', hengine, hlike.outcome_eq, hlike'.outcome_eq, hfirst, hfirst']
  exact settle_comm v h _ _ _ _ _ _ _ _ _

/-! ### Batches of events -/

theorem handle_eq_dispatch (v : Server S) (tree : FileTree) (refusals : Refusals)
    (h : event.token ≠ listenerToken) :
    v.handle tree refusals event = v.dispatch tree refusals event :=
  if_neg h

variable {batch batch' : List (Refusals × ReadyEvent)}

theorem handleEach_cons (v : Server S) (tree : FileTree) (b : Refusals × ReadyEvent)
    (batch : List (Refusals × ReadyEvent)) (h : b.2.token ≠ listenerToken) :
    v.handleEach tree (b :: batch) = (v.dispatch tree b.1 b.2).handleEach tree batch := by
  rw [← handle_eq_dispatch v tree b.1 h]
  rfl

/-- Notes are not looked at. -/
theorem Agrees.handleEach (h : Agrees v v') (hv : v.InStep) (hq : v.engine.waiting = [])
    (tree : FileTree) (hl : ∀ b ∈ batch, b.2.token ≠ listenerToken) :
    Agrees (v.handleEach tree batch) (v'.handleEach tree batch) := by
  induction batch generalizing v v' with
  | nil => exact h
  | cons b batch ih =>
    obtain ⟨hb, hl⟩ := List.forall_mem_cons.1 hl
    rw [handleEach_cons _ _ _ _ hb, handleEach_cons _ _ _ _ hb]
    exact ih (h.dispatch hv hq tree b.1 b.2) (hv.dispatch tree b.1 b.2) (quiet_dispatch hv hq) hl

/-- Events of other connections leave a server the same to a connection. -/
theorem likeFor_handleEach (hv : v.InStep) (hq : v.engine.waiting = []) {token : UInt64}
    (tree : FileTree) (hl : ∀ b ∈ batch, b.2.token ≠ listenerToken)
    (h : ∀ b ∈ batch, token ≠ b.2.token) : LikeFor token v (v.handleEach tree batch) := by
  induction batch generalizing v with
  | nil => exact ⟨rfl, rfl, hq, hq⟩
  | cons b batch ih =>
    obtain ⟨hb, hl⟩ := List.forall_mem_cons.1 hl
    obtain ⟨hne, h⟩ := List.forall_mem_cons.1 h
    have hfirst : LikeFor token v (v.dispatch tree b.1 b.2) := likeFor_dispatch hv hq hne
    have hrest := ih (hv.dispatch tree b.1 b.2) hfirst.quiet' hl h
    rw [handleEach_cons _ _ _ _ hb]
    exact ⟨hrest.settings.trans hfirst.settings, hrest.entry.trans hfirst.entry, hq, hrest.quiet'⟩

/-- A batch of events of different connections can be handled in any order. -/
theorem agrees_of_perm (hv : v.InStep) (hq : v.engine.waiting = []) (tree : FileTree)
    (hperm : batch.Perm batch') (hdistinct : (batch.map (·.2.token)).Nodup)
    (hl : ∀ b ∈ batch, b.2.token ≠ listenerToken) :
    Agrees (v.handleEach tree batch) (v.handleEach tree batch') := by
  induction hperm generalizing v with
  | nil => exact Agrees.refl v
  | cons b _ ih =>
    obtain ⟨hb, hl⟩ := List.forall_mem_cons.1 hl
    rw [handleEach_cons _ _ _ _ hb, handleEach_cons _ _ _ _ hb]
    exact ih (hv.dispatch tree b.1 b.2) (quiet_dispatch hv hq) (List.nodup_cons.1 hdistinct).2 hl
  | swap b b' batch =>
    -- The first two events trade places, and the rest goes on from servers that agree.
    obtain ⟨hb', hl⟩ := List.forall_mem_cons.1 hl
    obtain ⟨hb, hl⟩ := List.forall_mem_cons.1 hl
    have hne : b'.2.token ≠ b.2.token := by
      intro h
      exact (List.nodup_cons.1 hdistinct).1 (List.mem_cons.2 (.inl h))
    have hswap : Agrees ((v.dispatch tree b'.1 b'.2).dispatch tree b.1 b.2)
        ((v.dispatch tree b.1 b.2).dispatch tree b'.1 b'.2) := dispatch_swap hv hq hne
    have hv' := hv.dispatch tree b'.1 b'.2
    have hq' : (v.dispatch tree b'.1 b'.2).engine.waiting = [] := quiet_dispatch hv hq
    rw [handleEach_cons _ _ _ _ hb', handleEach_cons _ _ _ _ hb, handleEach_cons _ _ _ _ hb,
      handleEach_cons _ _ _ _ hb']
    exact hswap.handleEach (hv'.dispatch tree b.1 b.2) (quiet_dispatch hv' hq') tree hl
  | trans hperm _ ih ih' =>
    refine (ih hv hq hdistinct hl).trans (ih' hv hq ?_ ?_)
    · exact (hperm.map _).nodup_iff.1 hdistinct
    · exact fun b hb => hl b (hperm.mem_iff.2 hb)

/-- Each event of a batch leaves its socket as it would if it were the only one. -/
theorem reply?_handleEach (hv : v.InStep) (hq : v.engine.waiting = []) (tree : FileTree)
    (hdistinct : (batch.map (·.2.token)).Nodup) (hl : ∀ b ∈ batch, b.2.token ≠ listenerToken)
    {front back : List (Refusals × ReadyEvent)} {b : Refusals × ReadyEvent}
    (h : batch = front ++ b :: back) :
    (v.handleEach tree front).reply? tree b.2 = v.reply? tree b.2 := by
  rw [h, List.map_append, List.map_cons] at hdistinct
  refine (likeFor_handleEach hv hq tree (fun b hb => hl b ?_) fun b' hb' heq => ?_).reply?_eq
  · rw [h]
    exact List.mem_append_left _ hb
  · refine (List.nodup_append.1 hdistinct).2.2 _ (List.mem_map.2 ⟨b', hb', rfl⟩) _
      List.mem_cons_self heq.symm

/-- In whichever order the events of a batch are handled, as long as they are of different
    connections, the server comes out the same but for its notes, and so does every socket,
    also one that is closed; and an event of one connection changes no entry of another nor
    how it is watched. -/
theorem Reached.handleEach_perm (hv : Reached history v) (tree : FileTree)
    (hperm : batch.Perm batch') (hdistinct : (batch.map (·.2.token)).Nodup)
    (hlistener : ∀ b ∈ batch, b.2.token ≠ listenerToken) :
    Agrees (v.handleEach tree batch) (v.handleEach tree batch') ∧
    (∀ front b back, batch = front ++ b :: back ∨ batch' = front ++ b :: back →
      (v.handleEach tree front).reply? tree b.2 = v.reply? tree b.2) ∧
    ∀ refusals event token e, event.token ≠ listenerToken → token ≠ event.token →
      v.entry? token = some e → entry? (v.handle tree refusals event) token = some e ∧
        (v.handle tree refusals event).poller.watch? e.descriptor =
          v.poller.watch? e.descriptor := by
  refine ⟨agrees_of_perm hv.inStep hv.quiet tree hperm hdistinct hlistener, ?_, ?_⟩
  · -- Every socket comes out as if its event were the only one.
    rintro front b back (h | h)
    · exact reply?_handleEach hv.inStep hv.quiet tree hdistinct hlistener h
    · have hdistinct' := (hperm.map (·.2.token)).nodup_iff.1 hdistinct
      exact reply?_handleEach hv.inStep hv.quiet tree hdistinct'
        (fun b hb => hlistener b (hperm.mem_iff.2 hb)) h
  · -- Another connection does not notice.
    intro refusals event token e hl hne he
    rw [handle_eq_dispatch v tree refusals hl]
    have he' : entry? (v.dispatch tree refusals event) token = some e :=
      (entry?_dispatch_of_ne hv.inStep hne).trans he
    refine ⟨he', ?_⟩
    rw [(hv.inStep.dispatch tree refusals event).watch?_eq (mem_registry he'),
      hv.inStep.watch?_eq (mem_registry he)]

end Server

/-- Two clients are heard, one of which leaves, in either order; the other does not notice. -/
theorem Server.handleEach_perm_welcomed :
    Agrees (Callers.welcomed.handleEach Callers.tree
        [({}, Callers.readable 1), ({}, Callers.readable 2)])
      (Callers.welcomed.handleEach Callers.tree
        [({}, Callers.readable 2), ({}, Callers.readable 1)]) ∧
      entry? (Callers.welcomed.handle Callers.tree {} (Callers.readable 1)) 2 =
        some (Entry.admitted Callers.asker 2 2) := by
  obtain ⟨hagrees, -, hother⟩ := Reached.handleEach_perm Callers.reached_welcomed Callers.tree
    (List.Perm.swap ({}, Callers.readable 2) ({}, Callers.readable 1) []) (by decide) (by decide)
  exact ⟨hagrees, (hother {} (Callers.readable 1) 2 _ (by decide) (by decide) rfl).1⟩

end FileServer
