import FileServer.Proofs.Server.Calls
import FileServer.Proofs.Server.Registry
import FileServer.Proofs.Server.Tokens

/-!
# What becomes of the registry

A server is *in step* (`Server.InStep`) when its poller watches just the place where it
listens and the sockets of its connections, each under the token of the connection and for
what the entry says, and no token and no descriptor occurs twice.

A server in step changes in two ways only, whatever the system refuses:

* an event of a connection puts another entry in the place of the old one, or takes it away
  (`Server.settle`), and what is watched follows (`Server.dispatch_eq`). What becomes of the
  entry is told by what the last handler wanted (`Entry.after`);
* an accepted connection is dropped, or comes last in the registry with a new token and a
  new descriptor (`Server.addConnection_cases`).

Both keep it in step (`Server.InStep.settle`, `Server.InStep.welcome`).
-/

namespace FileServer

variable {S : Type}

/-- What is to be watched: the place where the server listens and every socket. -/
def Registry.watches (l : Registry S) : List (Descriptor × Watch) :=
  (Server.listenerDescriptor, Server.listenerWatch) ::
    l.map fun r => (r.2.descriptor, ⟨r.1, r.2.interest⟩)

theorem Registry.map_fst_watches (l : Registry S) :
    (watches l).map (·.1) = Server.listenerDescriptor :: l.map (·.2.descriptor) := by
  rw [watches, List.map_cons, List.map_map]
  rfl

namespace Entry

/-- The entry with what a session left behind. -/
def take (e : Entry S) (s : Session S) : Entry S :=
  { e with connection := s.connection, socket := s.socket }

/-- What becomes of an entry that wants to wait for something: where the system refuses to
    watch its socket in another way, nothing is left of it. -/
def await? (e : Entry S) (refusals : Server.Refusals) (interest : Interest) : Option (Entry S) :=
  if interest = e.interest then some e
  else if refusals.rearm.isSome then none
  else some { e with interest := interest }

/-- What becomes of an entry after the last handler wanted something, or none was called. -/
def after (e : Entry S) (refusals : Server.Refusals) : Option Next → Option (Entry S)
  | none => some e
  | some .close => none
  | some .read => e.await? refusals .read
  | some .write => e.await? refusals .write

/-- The entry of a connection that was accepted. -/
def admitted (a : Arrival S) (token : UInt64) (descriptor : Descriptor) : Entry S :=
  ⟨{ token := token, peer := a.peer }, a.socket, descriptor, .read⟩

variable {e e' : Entry S} {refusals : Server.Refusals} {interest : Interest} {wish : Option Next}

/-- What waits is the same entry, but for what it waits for. -/
theorem await?_eq_some (h : e.await? refusals interest = some e') :
    e' = { e with interest := interest } := by
  rw [await?] at h
  split at h
  · rename_i heq
    rw [← Option.some.inj h, heq]
  · split at h
    · cases h
    · exact (Option.some.inj h).symm

/-- What is left of an entry is the same entry, but for what it waits for. -/
theorem after_eq_some (h : e.after refusals wish = some e') :
    e' = { e with interest := e'.interest } ∧
      ∀ next ∈ wish, next.interest = some e'.interest ∧ next ≠ .close := by
  cases wish with
  | none =>
    obtain rfl := Option.some.inj h
    exact ⟨rfl, fun next hnext => absurd hnext (Option.not_mem_none next)⟩
  | some next =>
    cases next with
    | close => cases h
    | read | write =>
      rw [await?_eq_some h]
      refine ⟨rfl, fun next hnext => ?_⟩
      obtain rfl := Option.some.inj hnext
      exact ⟨rfl, nofun⟩

end Entry

/-- To watch something no longer is the same before and after it was left unwatched. -/
theorem Poller.forget_of_deregister {D : Type} [DecidableEq D] {p p' : Poller D}
    {refusal : Option SystemError} {d : D} (h : p.deregister refusal d = .ok p') :
    p'.forget d = p.forget d := by
  unfold deregister at h
  split at h
  · cases h
  · split at h
    · cases h
    · obtain rfl := Except.ok.inj h
      simp only [forget, List.filter_filter, Bool.and_self]

namespace Server

/-- The poller watches what is in the registry and nothing else. -/
structure InStep (v : Server S) : Prop where
  watches : v.poller.watches = Registry.watches v.registry
  descriptors : v.descriptors.Nodup
  tokens : v.tokens.Nodup
  listener : listenerToken ∉ v.tokens
  token_eq : ∀ r ∈ v.registry, r.2.connection.token = r.1

/-- The server with something else under a token, and watched accordingly. -/
def settle (v : Server S) (token : UInt64) (o : Option (Entry S)) (engine : Engine)
    (notes : List Note) : Server S :=
  { v with
    registry := Registry.replace token o v.registry
    poller := ⟨Registry.watches (Registry.replace token o v.registry)⟩
    engine := engine
    notes := notes }

/-- The server with a connection that was accepted behind the others. -/
def welcome (v : Server S) (a : Arrival S) (notes : List Note) : Server S :=
  let registry :=
    v.registry ++ [(v.takeToken.1, Entry.admitted a v.takeToken.1 v.freeDescriptor)]
  { v with
    registry := registry
    poller := ⟨Registry.watches registry⟩
    nextToken := v.takeToken.1 + 1
    notes := notes }

variable {v : Server S} {token : UInt64} {e e' : Entry S} {o : Option (Entry S)} {engine : Engine}
  {notes : List Note} {refusals : Refusals}

theorem mem_registry (he : v.entry? token = some e) : (token, e) ∈ v.registry :=
  Registry.mem_of_lookup he

theorem settle_settle (v : Server S) (token : UInt64) (e : Entry S) (o : Option (Entry S))
    (engine engine' : Engine) (notes notes' : List Note) :
    (v.settle token (some e) engine notes).settle token o engine' notes' =
      v.settle token o engine' notes' := by
  rw [settle, settle, settle]
  simp only [Registry.replace_replace]

/-- Under another token stays what was there. -/
theorem entry?_settle_of_ne {other : UInt64} (h : other ≠ token) :
    entry? (v.settle token o engine notes) other = v.entry? other :=
  Registry.lookup_replace_of_ne h

theorem entry?_settle_self (he : v.entry? token = some e) :
    entry? (v.settle token o engine notes) token = o :=
  Registry.lookup_replace_self (List.mem_map.2 ⟨_, mem_registry he, rfl⟩)

namespace InStep

/-- Notes are not looked at. -/
theorem note (hv : v.InStep) (level : Level) (text : String) (details : List (String × String)) :
    (v.note level text details).InStep :=
  ⟨hv.watches, hv.descriptors, hv.tokens, hv.listener, hv.token_eq⟩

/-- One token, one entry. -/
theorem eq_of_mem (hv : v.InStep) (he : (token, e) ∈ v.registry) {r : UInt64 × Entry S}
    (hr : r ∈ v.registry) (h : r.1 = token) : r = (token, e) :=
  List.inj_on_of_nodup_map hv.tokens hr he h

/-- One descriptor, one token. -/
theorem descriptor_eq_iff (hv : v.InStep) (he : (token, e) ∈ v.registry) {r : UInt64 × Entry S}
    (hr : r ∈ v.registry) : r.2.descriptor = e.descriptor ↔ r.1 = token := by
  constructor
  · intro h
    have hnodup : (v.registry.map (·.2.descriptor)).Nodup := (List.nodup_cons.1 hv.descriptors).2
    rw [List.inj_on_of_nodup_map hnodup hr he h]
  · intro h
    rw [hv.eq_of_mem he hr h]

/-- A connection has another descriptor than the place where the server listens. -/
theorem descriptor_ne (hv : v.InStep) (he : (token, e) ∈ v.registry) :
    listenerDescriptor ≠ e.descriptor := by
  intro h
  refine (List.nodup_cons.1 hv.descriptors).1 ?_
  rw [h]
  exact List.mem_map.2 ⟨_, he, rfl⟩

/-- The socket of an entry is watched under its token, for what the entry says. -/
theorem watch?_eq (hv : v.InStep) (he : (token, e) ∈ v.registry) :
    v.poller.watch? e.descriptor = some ⟨token, e.interest⟩ := by
  rw [Poller.watch?, hv.watches]
  refine lookup_of_mem ?_ ?_
  · rw [Registry.map_fst_watches]
    exact hv.descriptors
  · exact List.mem_cons_of_mem _ (List.mem_map.2 ⟨_, he, rfl⟩)

/-- To settle an entry keeps a server in step, if token and descriptor stay. -/
theorem settle (hv : v.InStep) (he : (token, e) ∈ v.registry)
    (ho : ∀ e' ∈ o, e'.descriptor = e.descriptor ∧ e'.connection.token = token) :
    (v.settle token o engine notes).InStep where
  watches := rfl
  descriptors := by
    refine hv.descriptors.sublist (List.Sublist.cons_cons _ ?_)
    refine Registry.map_replace_sublist fun r hr hr' e' he' => ?_
    rw [hv.eq_of_mem he hr hr']
    exact (ho e' he').1
  tokens := hv.tokens.sublist (Registry.map_replace_sublist fun _ _ h _ _ => h.symm)
  listener h := hv.listener
    ((Registry.map_replace_sublist fun _ _ h _ _ => h.symm).subset h)
  token_eq r hr := by
    rcases Registry.mem_replace hr with ⟨hr, -⟩ | ⟨heq, hr⟩
    · exact hv.token_eq r hr
    · rw [(ho r.2 hr).2, heq]

/-- To watch the socket of an entry no longer is to take the entry away. -/
theorem forget_eq (hv : v.InStep) (he : (token, e) ∈ v.registry) :
    v.poller.forget e.descriptor =
      ⟨Registry.watches (Registry.replace token none v.registry)⟩ := by
  have hlistener : decide (listenerDescriptor ≠ e.descriptor) = true :=
    decide_eq_true (hv.descriptor_ne he)
  rw [Poller.forget, hv.watches, ← Registry.filter_eq_replace, Registry.watches, Registry.watches,
    List.filter_cons, if_pos hlistener, List.filter_map]
  refine congrArg (fun l => Poller.mk (_ :: List.map _ l)) (List.filter_congr fun r hr => ?_)
  exact decide_eq_decide.2 (not_congr (hv.descriptor_eq_iff he hr))

/-- To watch the socket of an entry for something else is to change the entry. -/
theorem rearm_eq (hv : v.InStep) (he : (token, e) ∈ v.registry) (interest : Interest) :
    v.poller.rearm none e.descriptor ⟨token, interest⟩ =
      .ok ⟨Registry.watches
        (Registry.replace token (some { e with interest := interest }) v.registry)⟩ := by
  have hwatched : ¬(v.poller.watch? e.descriptor).isNone := by
    rw [hv.watch?_eq he]
    exact Bool.false_ne_true
  rw [Poller.rearm]
  simp only [if_neg hwatched, hv.watches, ← Registry.map_eq_replace, Registry.watches,
    List.map_cons, List.map_map, if_neg (hv.descriptor_ne he)]
  refine congrArg (fun l => Except.ok (Poller.mk (_ :: l))) (List.map_congr_left fun r hr => ?_)
  by_cases h : r.1 = token
  · simp [h, (hv.descriptor_eq_iff he hr).2 h]
  · simp [h, mt (hv.descriptor_eq_iff he hr).1 h]

/-- So does a new connection under a token that is free. -/
theorem welcome (hv : v.InStep) (hfree : isFree v.tokens v.takeToken.1 = true) (a : Arrival S) :
    (v.welcome a notes).InStep where
  watches := rfl
  descriptors := by
    have heq : (v.welcome a notes).descriptors = v.descriptors ++ [v.freeDescriptor] := by
      simp only [Server.descriptors, Server.welcome, List.map_append, List.cons_append]
      rfl
    rw [heq]
    exact List.nodup_append_comm.1 (List.nodup_cons.2 ⟨v.freeDescriptor_notMem, hv.descriptors⟩)
  tokens := by
    have heq : (v.welcome a notes).tokens = v.tokens ++ [v.takeToken.1] := List.map_append
    rw [heq]
    exact List.nodup_append_comm.1 (List.nodup_cons.2 ⟨(isFree_iff.1 hfree).2, hv.tokens⟩)
  listener h := by
    have heq : (v.welcome a notes).tokens = v.tokens ++ [v.takeToken.1] := List.map_append
    rw [heq] at h
    rcases List.mem_append.1 h with h | h
    · exact hv.listener h
    · exact (isFree_iff.1 hfree).1 (List.mem_singleton.1 h).symm
  token_eq r hr := by
    rcases List.mem_append.1 hr with hr | hr
    · exact hv.token_eq r hr
    · rw [List.mem_singleton.1 hr]
      rfl

end InStep

/-! ### An event of a connection -/

/-- What an event calls on an entry, and the session that this leaves. -/
def callsOn [Socket S] (v : Server S) (tree : FileTree) (event : ReadyEvent) (e : Entry S) :
    List (Signal × Next) × Session S :=
  (v.session e).callAll ⟨v.settings, tree⟩ event.signals

/-- The handlers do just what was called. -/
theorem runHandlers_eq_callsOn [Socket S] (v : Server S) (tree : FileTree) (event : ReadyEvent)
    (e : Entry S) : runHandlers ⟨v.settings, tree⟩ event (v.session e) =
      (Session.wishOf (v.callsOn tree event e).1, (v.callsOn tree event e).2) :=
  runHandlers_eq _ _ _

theorem token_callsOn [Socket S] (v : Server S) (tree : FileTree) (event : ReadyEvent)
    (e : Entry S) : (v.callsOn tree event e).2.connection.token = e.connection.token := by
  refine Session.callAll_preserves (motive := fun s => s.connection.token = e.connection.token)
    (fun signal h => ?_) event.signals rfl
  exact (Session.token_handle signal).trans h

theorem absorb_eq (hv : v.InStep) (he : (token, e) ∈ v.registry) (s : Session S) :
    v.absorb token e s = v.settle token (some (e.take s)) s.engine s.notes := by
  -- What is watched does not change, because neither descriptor nor interest do.
  have hwatches : Registry.watches (Registry.replace token (some (e.take s)) v.registry) =
      v.poller.watches := by
    rw [hv.watches, Registry.watches, Registry.map_replace_some, Registry.watches]
    intro r hr hr'
    rw [hv.eq_of_mem he hr hr']
    rfl
  rw [settle, hwatches, ← Registry.map_eq_replace]
  rfl

/-- A connection that is torn down is watched no longer, whether or not the system refuses. -/
theorem teardown_eq (hv : v.InStep) (he : v.entry? token = some e) (refusals : Refusals) :
    ∃ notes, v.teardown refusals token = v.settle token none v.engine notes := by
  rw [teardown, he]
  dsimp only
  cases hd : v.poller.deregister refusals.deregister e.descriptor with
  | error error =>
    dsimp only [note]
    rw [hv.forget_eq (mem_registry he), Registry.filter_eq_replace]
    exact ⟨_, rfl⟩
  | ok poller =>
    dsimp only
    rw [Poller.forget_of_deregister hd, hv.forget_eq (mem_registry he), Registry.filter_eq_replace]
    exact ⟨_, rfl⟩

/-- A connection that is to be watched for something else is torn down where that is refused. -/
theorem rearm_eq (hv : v.InStep) (he : v.entry? token = some e) (refusals : Refusals)
    (interest : Interest) : ∃ notes,
      v.rearm refusals token interest =
        v.settle token (e.await? refusals interest) v.engine notes := by
  have hmem := mem_registry he
  rw [rearm, he, Entry.await?]
  dsimp only
  by_cases hi : interest = e.interest
  · refine ⟨v.notes, ?_⟩
    rw [if_pos hi, if_pos hi, settle, Registry.replace_self hv.tokens he, ← hv.watches]
  · rw [if_neg hi, if_neg hi]
    cases hr : refusals.rearm with
    | some error => exact teardown_eq (hv.note _ _ _) he refusals
    | none =>
      refine ⟨v.notes, ?_⟩
      rw [hv.rearm_eq hmem]
      simp only [Option.isSome_none, if_neg Bool.false_ne_true, settle]
      -- Every entry under the token is this one.
      have hregistry : (v.registry.map fun r =>
          if r.1 = token then (token, { r.2 with interest := interest }) else r) =
          Registry.replace token (some { e with interest := interest }) v.registry := by
        rw [← Registry.map_eq_replace]
        refine List.map_congr_left fun r hr => ?_
        by_cases h : r.1 = token
        · rw [if_pos h, if_pos h, hv.eq_of_mem hmem hr h]
        · rw [if_neg h, if_neg h]
      rw [hregistry]

/-- What an event makes of the entry that it is for. -/
theorem dispatch_eq [Socket S] (hv : v.InStep) {event : ReadyEvent}
    (he : v.entry? event.token = some e) (tree : FileTree) (refusals : Refusals) : ∃ notes,
      v.dispatch tree refusals event = v.settle event.token
        ((e.take (v.callsOn tree event e).2).after refusals
          (Session.wishOf (v.callsOn tree event e).1))
        (v.callsOn tree event e).2.engine notes := by
  have hmem := mem_registry he
  have habsorb := absorb_eq hv hmem (v.callsOn tree event e).2
  -- The handlers leave the server in step, and what is made of their wish comes on top.
  have hv' : (v.absorb event.token e (v.callsOn tree event e).2).InStep := by
    rw [habsorb]
    refine hv.settle hmem fun e' he' => ?_
    obtain rfl := Option.some.inj he'
    exact ⟨rfl, (token_callsOn v tree event e).trans (hv.token_eq _ hmem)⟩
  have he' : entry? (v.absorb event.token e (v.callsOn tree event e).2) event.token =
      some (e.take (v.callsOn tree event e).2) := by
    rw [habsorb]
    exact entry?_settle_self he
  have hengine : (v.absorb event.token e (v.callsOn tree event e).2).engine =
      (v.callsOn tree event e).2.engine := rfl
  rw [dispatch, he]
  dsimp only
  rw [runHandlers_eq_callsOn]
  dsimp only
  cases Session.wishOf (v.callsOn tree event e).1 with
  | none => exact ⟨_, habsorb⟩
  | some next =>
    cases next with
    | close =>
      obtain ⟨notes, h⟩ := teardown_eq hv' he' refusals
      refine ⟨notes, h.trans ?_⟩
      rw [hengine, habsorb, settle_settle, Entry.after]
    | read | write =>
      obtain ⟨notes, h⟩ := rearm_eq hv' he' refusals _
      refine ⟨notes, h.trans ?_⟩
      rw [hengine, habsorb, settle_settle, Entry.after]

/-- An event of a connection that is there no more changes nothing. -/
theorem dispatch_of_none [Socket S] {event : ReadyEvent} (he : v.entry? event.token = none)
    (tree : FileTree) (refusals : Refusals) : v.dispatch tree refusals event = v := by
  rw [dispatch, he]

/-- An event keeps a server in step. -/
theorem InStep.dispatch [Socket S] (hv : v.InStep) (tree : FileTree) (refusals : Refusals)
    (event : ReadyEvent) : (v.dispatch tree refusals event).InStep := by
  cases he : v.entry? event.token with
  | none =>
    rw [dispatch_of_none he]
    exact hv
  | some e =>
    obtain ⟨notes, h⟩ := dispatch_eq hv he tree refusals
    have hmem := mem_registry he
    rw [h]
    refine hv.settle hmem fun e' he' => ?_
    rw [(Entry.after_eq_some he').1]
    exact ⟨rfl, (token_callsOn v tree event e).trans (hv.token_eq _ hmem)⟩

/-! ### A connection that is accepted -/

/-- A token is taken unless the socket cannot be made non-blocking. -/
theorem nextToken_addConnection (v : Server S) (a : Arrival S) :
    (v.addConnection a).nextToken =
      if a.blocking = none then v.takeToken.1 + 1 else v.nextToken := by
  rw [addConnection]
  cases a.blocking with
  | some error => rfl
  | none =>
    dsimp only
    split
    · rfl
    · rfl

/-- A connection that is accepted is dropped, or comes last. -/
theorem addConnection_cases (hv : v.InStep) (a : Arrival S) :
    (∃ nextToken notes, v.addConnection a = { v with nextToken := nextToken, notes := notes }) ∨
    (a.blocking = none ∧ ∃ notes, v.addConnection a = v.welcome a notes) := by
  rw [addConnection]
  cases a.blocking with
  | some error => exact .inl ⟨_, _, rfl⟩
  | none =>
    dsimp only
    cases a.unwatched with
    | some error => exact .inl ⟨_, _, rfl⟩
    | none =>
      -- A new descriptor is not watched yet.
      have hnew : v.poller.watch? v.freeDescriptor = none := by
        rw [Poller.watch?, hv.watches, List.lookup_eq_none_iff]
        intro w hw
        refine bne_iff_ne.2 fun h => v.freeDescriptor_notMem ?_
        rw [h, descriptors, ← Registry.map_fst_watches]
        exact List.mem_map.2 ⟨w, hw, rfl⟩
      have hregister : v.takeToken.2.poller.register none v.freeDescriptor ⟨v.takeToken.1, .read⟩ =
          .ok ⟨Registry.watches (v.registry ++
            [(v.takeToken.1, Entry.admitted a v.takeToken.1 v.freeDescriptor)])⟩ := by
        rw [show v.takeToken.2.poller = v.poller from rfl, Poller.register, hnew, hv.watches,
          Registry.watches, Registry.watches, List.map_append]
        rfl
      rw [hregister]
      exact .inr ⟨rfl, _, rfl⟩

/-- A new connection keeps a server in step, as long as there are free tokens. -/
theorem InStep.addConnection (hv : v.InStep) (hroom : v.registry.length + 1 < UInt64.size)
    (a : Arrival S) : (v.addConnection a).InStep := by
  rcases addConnection_cases hv a with ⟨_, _, h⟩ | ⟨-, _, h⟩
  · rw [h]
    exact ⟨hv.watches, hv.descriptors, hv.tokens, hv.listener, hv.token_eq⟩
  · rw [h]
    exact hv.welcome (isFree_takeToken hroom) a

end Server

end FileServer
