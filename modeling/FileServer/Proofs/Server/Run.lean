import FileServer.Proofs.Server.Outcome
import FileServer.Proofs.Transfer.Accounting

/-!
# Runs of a server

A server is started and then takes turns (`Server.Step`): it accepts a connection, or
handles an event of one. In between the world goes on, that is, clients send and read, or
want to be accepted. A turn is told by what can be seen of it (`Turn`): which
handlers were called, which token was given out, and which tokens came into the registry or
left it. A *run* is a sequence of turns from the start on (`Server.Reached`), whatever the
clients do, the system refuses and becomes of the files. To handle a batch of events is a
run (`Server.Reached.handleAll`).

A search for a free token ends only if there is one. So a connection is accepted only as long
as there are fewer connections than tokens, and a run ends there.
-/

namespace FileServer

variable {S : Type}

/-- What can be seen of one turn. -/
structure Turn where
  /-- The token of the event that was handled, if one was. -/
  subject : Option UInt64 := none
  /-- The handlers that were called, each with what it wanted. -/
  calls : List (Signal × Next) := []
  /-- The tokens that were given out. -/
  given : List UInt64 := []
  /-- The tokens that came into the registry. -/
  came : List UInt64 := []
  /-- The tokens that left the registry. -/
  left : List UInt64 := []

/-! ### The start -/

theorem exists_of_bind {ε α β : Type} {x : Except ε α} {f : α → Except ε β} {b : β}
    (h : (x >>= f) = .ok b) : ∃ a, x = .ok a ∧ f a = .ok b := by
  cases x with
  | error e => cases h
  | ok a => exact ⟨a, rfl, h⟩

theorem of_mapError {ε ε' α : Type} {f : ε → ε'} {x : Except ε α} {a : α}
    (h : x.mapError f = .ok a) : x = .ok a := by
  cases x with
  | error e => cases h
  | ok a => exact congrArg Except.ok (Except.ok.inj h)

namespace Server

/-- A server that was started has no connections, and nothing waits in its engine. -/
theorem bind_eq_ok {n n' : Network} {settings : Settings} {v : Server S}
    (h : Server.bind n settings = .ok (v, n')) :
    settings.check = .ok () ∧ v.settings = settings ∧
      v.poller = ⟨[(listenerDescriptor, listenerWatch)]⟩ ∧ v.engine = {} ∧ v.registry = [] ∧
      v.nextToken = 1 := by
  rw [Server.bind] at h
  obtain ⟨_, hcheck, h⟩ := exists_of_bind h
  obtain ⟨engine, hengine, h⟩ := exists_of_bind h
  obtain ⟨ip, -, h⟩ := exists_of_bind h
  obtain ⟨⟨endpoint, n''⟩, -, h⟩ := exists_of_bind h
  obtain ⟨rfl, -⟩ := Prod.mk.inj (Except.ok.inj h)
  exact ⟨of_mapError hcheck, rfl, rfl, Engine.eq_of_create (of_mapError hengine), rfl, rfl⟩

/-- A server starts in step. -/
theorem inStep_bind {n n' : Network} {settings : Settings} {v : Server S}
    (h : Server.bind n settings = .ok (v, n')) : v.InStep := by
  obtain ⟨-, -, hpoller, -, hregistry, -⟩ := bind_eq_ok h
  have htokens : v.tokens = [] := by rw [tokens, hregistry, List.map_nil]
  have hdescriptors : v.descriptors = [listenerDescriptor] := by
    rw [descriptors, hregistry, List.map_nil]
  refine ⟨?_, ?_, ?_, ?_, ?_⟩
  · rw [hpoller, hregistry]
    rfl
  · rw [hdescriptors]
    exact List.nodup_singleton _
  · rw [htokens]
    exact List.nodup_nil
  · rw [htokens]
    exact List.not_mem_nil
  · rw [hregistry]
    exact fun r hr => absurd hr List.not_mem_nil

/-! ### Turns -/

/-- The tokens of one server that another does not have. -/
def tokensBut (v v' : Server S) : List UInt64 := v.tokens.filter fun token => token ∉ v'.tokens

theorem mem_tokensBut {v v' : Server S} {token : UInt64} :
    token ∈ tokensBut v v' ↔ token ∈ v.tokens ∧ token ∉ v'.tokens := by
  rw [tokensBut, List.mem_filter, decide_eq_true_iff]

/-- The server while nothing is done: others want to be accepted, sockets change, and notes
    are taken. -/
def elapse (v : Server S) (waiting : List (Accepting S)) (sockets : UInt64 → S → S)
    (notes : List Note) : Server S :=
  { v with
    waiting := waiting
    registry := v.registry.map fun r => (r.1, { r.2 with socket := sockets r.1 r.2.socket })
    notes := notes }

/-- Nothing need happen to the sockets. -/
theorem elapse_id (v : Server S) (waiting : List (Accepting S)) (notes : List Note) :
    v.elapse waiting (fun _ socket => socket) notes =
      { v with waiting := waiting, notes := notes } := by
  rw [elapse]
  exact congrArg (fun l => { v with waiting := waiting, registry := l, notes := notes })
    (List.map_id v.registry)

theorem tokens_elapse (v : Server S) (waiting : List (Accepting S)) (sockets : UInt64 → S → S)
    (notes : List Note) : (v.elapse waiting sockets notes).tokens = v.tokens := by
  rw [tokens, elapse, List.map_map]
  rfl

theorem entry?_eq_none {v : Server S} {token : UInt64} : v.entry? token = none ↔ token ∉ v.tokens :=
  Registry.lookup_eq_none

/-- The tokens after a connection was accepted: those from before, and perhaps the one that was
    given out. -/
theorem tokens_addConnection {v : Server S} (hv : v.InStep) (a : Arrival S) :
    (v.addConnection a).tokens = v.tokens ∨
      a.blocking = none ∧ (v.addConnection a).tokens = v.tokens ++ [v.takeToken.1] := by
  rcases addConnection_cases hv a with ⟨_, _, h⟩ | ⟨hblocking, _, h⟩
  · rw [h]
    exact .inl rfl
  · refine .inr ⟨hblocking, ?_⟩
    rw [h]
    exact List.map_append

theorem length_addConnection {v : Server S} (hv : v.InStep) (a : Arrival S) :
    (v.addConnection a).registry.length ≤ v.registry.length + 1 := by
  have hlen : ∀ v : Server S, v.registry.length = v.tokens.length := fun v => (List.length_map _).symm
  rw [hlen, hlen]
  rcases tokens_addConnection hv a with h | ⟨-, h⟩
  · rw [h]
    exact Nat.le_succ _
  · rw [h, List.length_append]
    exact Nat.le_refl _

variable [Socket S]

/-- What is seen when a connection is accepted. -/
def acceptTurn (v : Server S) (a : Arrival S) : Turn where
  given := if a.blocking = none then [v.takeToken.1] else []
  came := tokensBut (v.addConnection a) v
  left := tokensBut v (v.addConnection a)

/-- What is seen when an event of a connection is handled. -/
def dispatchTurn (v : Server S) (tree : FileTree) (refusals : Refusals) (event : ReadyEvent) :
    Turn where
  subject := some event.token
  calls := match v.entry? event.token with
    | none => []
    | some e => (v.callsOn tree event e).1
  came := tokensBut (v.dispatch tree refusals event) v
  left := tokensBut v (v.dispatch tree refusals event)

/-- What a server does next. -/
inductive Step : Server S → Turn → Server S → Prop
  /-- The world goes on. -/
  | elapse (v : Server S) (waiting : List (Accepting S)) (sockets : UInt64 → S → S)
      (notes : List Note) : Step v {} (v.elapse waiting sockets notes)
  /-- A connection is accepted, for which there is a free token. -/
  | accept (v : Server S) (a : Arrival S) (hroom : v.registry.length + 1 < UInt64.size) :
      Step v (v.acceptTurn a) (v.addConnection a)
  /-- An event is handled, whether or not its connection is still there. -/
  | dispatch (v : Server S) (tree : FileTree) (refusals : Refusals) (event : ReadyEvent) :
      Step v (v.dispatchTurn tree refusals event) (v.dispatch tree refusals event)

/-- What comes after a server was started, and the turns it took since. -/
inductive Reached : List Turn → Server S → Prop
  | bind {n n' : Network} {settings : Settings} {v : Server S}
      (h : Server.bind n settings = .ok (v, n')) : Reached [] v
  | step {history : List Turn} {turn : Turn} {v v' : Server S} (hv : Reached history v)
      (hs : Step v turn v') : Reached (history ++ [turn]) v'

variable {v v' : Server S} {turn : Turn} {history : List Turn}

/-! ### What a turn does -/

/-- An event changes no entry but the one that it is for. -/
theorem entry?_dispatch_of_ne (hv : v.InStep) {tree : FileTree} {refusals : Refusals}
    {event : ReadyEvent} {token : UInt64} (h : token ≠ event.token) :
    entry? (v.dispatch tree refusals event) token = v.entry? token := by
  cases he : v.entry? event.token with
  | none => rw [dispatch_of_none he]
  | some e =>
    obtain ⟨_, hdispatch⟩ := dispatch_eq hv he tree refusals
    rw [hdispatch, entry?_settle_of_ne h]

/-- An event leaves of the entry that it is for what the last handler makes of it. -/
theorem entry?_dispatch_self (hv : v.InStep) {event : ReadyEvent} {e : Entry S}
    (he : v.entry? event.token = some e) (tree : FileTree) (refusals : Refusals) :
    entry? (v.dispatch tree refusals event) event.token =
      (e.take (v.callsOn tree event e).2).after refusals
        (Session.wishOf (v.callsOn tree event e).1) := by
  obtain ⟨_, hdispatch⟩ := dispatch_eq hv he tree refusals
  rw [hdispatch, entry?_settle_self he]

/-- No event brings a connection in. -/
theorem tokens_dispatch_subset (hv : v.InStep) {tree : FileTree} {refusals : Refusals}
    {event : ReadyEvent} : (v.dispatch tree refusals event).tokens ⊆ v.tokens := by
  cases he : v.entry? event.token with
  | none =>
    rw [dispatch_of_none he]
    exact List.Subset.refl _
  | some e =>
    obtain ⟨_, hdispatch⟩ := dispatch_eq hv he tree refusals
    rw [hdispatch]
    exact (Registry.map_replace_sublist fun _ _ h _ _ => h.symm).subset

/-- A connection whose handler wants it closed leaves. -/
theorem mem_left_dispatch (hv : v.InStep) {tree : FileTree} {refusals : Refusals}
    {event : ReadyEvent} {e : Entry S} (he : v.entry? event.token = some e)
    (hclose : Session.wishOf (v.callsOn tree event e).1 = some .close) :
    event.token ∈ (v.dispatchTurn tree refusals event).left := by
  refine mem_tokensBut.2 ⟨List.mem_map.2 ⟨_, mem_registry he, rfl⟩, ?_⟩
  rw [← entry?_eq_none, entry?_dispatch_self hv he, hclose]
  rfl

namespace Step

/-- Every turn keeps a server in step. -/
theorem inStep (hs : Step v turn v') (hv : v.InStep) : v'.InStep := by
  cases hs with
  | elapse waiting sockets notes =>
    have hdescriptors : (v.elapse waiting sockets notes).descriptors = v.descriptors := by
      rw [descriptors, Server.elapse, List.map_map]
      rfl
    have hwatches : Registry.watches (v.elapse waiting sockets notes).registry =
        Registry.watches v.registry := by
      rw [Registry.watches, Server.elapse, List.map_map]
      rfl
    constructor
    case watches =>
      rw [hwatches]
      exact hv.watches
    case descriptors =>
      rw [hdescriptors]
      exact hv.descriptors
    case tokens =>
      rw [tokens_elapse]
      exact hv.tokens
    case listener =>
      rw [tokens_elapse]
      exact hv.listener
    case token_eq =>
      intro r hr
      obtain ⟨r', hr', rfl⟩ := List.mem_map.1 hr
      exact hv.token_eq r' hr'
  | accept a hroom => exact hv.addConnection hroom a
  | dispatch tree refusals event => exact hv.dispatch tree refusals event

/-- What is seen to leave was there and is there no more. -/
theorem mem_left (hs : Step v turn v') {token : UInt64} :
    token ∈ turn.left ↔ token ∈ v.tokens ∧ token ∉ v'.tokens := by
  cases hs with
  | elapse waiting sockets notes =>
    rw [tokens_elapse]
    simp
  | accept => exact mem_tokensBut
  | dispatch => exact mem_tokensBut

/-- What is seen to come was not there and is there now. -/
theorem mem_came (hs : Step v turn v') {token : UInt64} :
    token ∈ turn.came ↔ token ∈ v'.tokens ∧ token ∉ v.tokens := by
  cases hs with
  | elapse waiting sockets notes =>
    rw [tokens_elapse]
    simp
  | accept => exact mem_tokensBut
  | dispatch => exact mem_tokensBut

/-- A connection leaves only in an event of its own. -/
theorem subject_of_mem_left (hs : Step v turn v') (hv : v.InStep) {token : UInt64}
    (h : token ∈ turn.left) : turn.subject = some token := by
  obtain ⟨hmem, hnot⟩ := hs.mem_left.1 h
  cases hs with
  | elapse => cases h
  | accept a =>
    -- To accept a connection takes no token away.
    rcases tokens_addConnection hv a with heq | ⟨-, heq⟩
    · rw [heq] at hnot
      exact absurd hmem hnot
    · rw [heq] at hnot
      exact absurd (List.mem_append_left _ hmem) hnot
  | dispatch tree refusals event =>
    by_cases heq : token = event.token
    · rw [heq]
      rfl
    · rw [← entry?_eq_none, entry?_dispatch_of_ne hv heq, entry?_eq_none] at hnot
      exact absurd hmem hnot

/-- What comes was given out. -/
theorem came_sublist (hs : Step v turn v') (hv : v.InStep) : turn.came.Sublist turn.given := by
  cases hs with
  | elapse => exact List.Sublist.refl []
  | accept a hroom =>
    rw [acceptTurn, tokensBut]
    dsimp only
    have hnil : (v.tokens.filter fun token => token ∉ v.tokens) = [] := by simp
    rcases tokens_addConnection hv a with heq | ⟨hblocking, heq⟩
    · rw [heq, hnil]
      exact List.nil_sublist _
    · rw [heq, List.filter_append, hnil, if_pos hblocking]
      exact List.filter_sublist
  | dispatch tree refusals event =>
    have hnil : (v.dispatchTurn tree refusals event).came = [] := by
      refine List.eq_nil_iff_forall_not_mem.2 fun token h => ?_
      obtain ⟨hmem, hnot⟩ := mem_tokensBut.1 h
      exact hnot (tokens_dispatch_subset hv hmem)
    rw [hnil]
    exact List.nil_sublist _

/-- Nothing is called on a connection that is not there. -/
theorem calls_of_absent (hs : Step v turn v') {token : UInt64} (hsubject : turn.subject = some token)
    (h : token ∉ v.tokens) : turn.calls = [] := by
  cases hs with
  | elapse => rfl
  | accept => rfl
  | dispatch tree refusals event =>
    obtain rfl := Option.some.inj hsubject
    rw [dispatchTurn, entry?_eq_none.2 h]

/-- A handler that wants the connection closed is the last one that is called, and the connection
    leaves. -/
theorem closes (hs : Step v turn v') (hv : v.InStep) {front back : List (Signal × Next)}
    {signal : Signal} (h : turn.calls = front ++ (signal, .close) :: back) :
    back = [] ∧ ∃ token, turn.subject = some token ∧ token ∈ turn.left := by
  have hne : [] ≠ front ++ (signal, Next.close) :: back :=
    (List.append_ne_nil_of_right_ne_nil _ (List.cons_ne_nil _ _)).symm
  cases hs with
  | elapse => exact absurd h hne
  | accept => exact absurd h hne
  | dispatch tree refusals event =>
    cases he : v.entry? event.token with
    | none =>
      rw [dispatchTurn, he] at h
      exact absurd h hne
    | some e =>
      rw [dispatchTurn, he] at h
      have hcalls : (v.callsOn tree event e).1 = front ++ (signal, .close) :: back := h
      obtain rfl := Session.eq_nil_of_callAll hcalls
      refine ⟨rfl, event.token, rfl, mem_left_dispatch hv he ?_⟩
      rw [hcalls, Session.wishOf, List.getLast?_concat]
      rfl

end Step

/-! ### Runs -/

/-- In every run the server stays in step. -/
theorem Reached.inStep (hv : Reached history v) : v.InStep := by
  induction hv with
  | bind h => exact inStep_bind h
  | step hv hs ih => exact hs.inStep ih

/-! ### Batches of events -/

/-- To accept those that wait is a run, and of those that waited none is counted twice. -/
theorem Reached.acceptFrom (hv : Reached history v) (l : List (Accepting S))
    (hroom : v.registry.length + l.length + 1 < UInt64.size) :
    ∃ turns, Reached (history ++ turns) (v.acceptFrom l) ∧
      (v.acceptFrom l).registry.length + (v.acceptFrom l).waiting.length ≤
        v.registry.length + l.length := by
  induction l generalizing v history with
  | nil =>
    have hs := Step.elapse v [] (fun _ socket => socket) v.notes
    rw [elapse_id] at hs
    exact ⟨_, hv.step hs, Nat.le_refl _⟩
  | cons accepting rest ih =>
    rw [List.length_cons] at hroom ⊢
    cases accepting with
    | arrived a =>
      -- It is in the registry, or it was refused.
      have hlength := length_addConnection hv.inStep a
      obtain ⟨turns, h, hle⟩ := ih (hv.step (.accept v a (by omega))) (by omega)
      rw [List.append_assoc] at h
      refine ⟨_, h, ?_⟩
      rw [Server.acceptFrom]
      omega
    | interrupted =>
      obtain ⟨turns, h, hle⟩ := ih hv (by omega)
      refine ⟨turns, h, ?_⟩
      rw [Server.acceptFrom]
      omega
    | failed error =>
      -- The others are left waiting.
      have hs := Step.elapse v rest (fun _ socket => socket)
        (v.note .warn "accept failed" [("error", error.message)]).notes
      rw [elapse_id] at hs
      refine ⟨_, hv.step hs, ?_⟩
      rw [Server.acceptFrom]
      exact Nat.add_le_add_left (Nat.le_succ _) _

/-- To handle an event is a run. -/
theorem Reached.handle (hv : Reached history v) (tree : FileTree) (refusals : Refusals)
    (event : ReadyEvent) (hroom : v.registry.length + v.waiting.length + 1 < UInt64.size) :
    ∃ turns, Reached (history ++ turns) (v.handle tree refusals event) ∧
      (v.handle tree refusals event).registry.length +
        (v.handle tree refusals event).waiting.length ≤ v.registry.length + v.waiting.length := by
  rw [Server.handle]
  split
  · exact hv.acceptFrom v.waiting hroom
  · refine ⟨_, hv.step (.dispatch v tree refusals event), ?_⟩
    cases he : v.entry? event.token with
    | none => exact Nat.le_of_eq (by rw [dispatch_of_none he])
    | some e =>
      obtain ⟨_, hdispatch⟩ := dispatch_eq hv.inStep he tree refusals
      rw [hdispatch]
      exact Nat.add_le_add_right (List.length_filterMap_le _ _) _

/-- To handle a batch of events is a run. -/
theorem Reached.handleAll (hv : Reached history v) (tree : FileTree) (refusals : Refusals)
    (events : List ReadyEvent) (hroom : v.registry.length + v.waiting.length + 1 < UInt64.size) :
    ∃ turns, Reached (history ++ turns) (v.handleAll tree refusals events) := by
  induction events generalizing v history with
  | nil => exact ⟨[], by rwa [List.append_nil]⟩
  | cons event events ih =>
    obtain ⟨turns, h, hle⟩ := hv.handle tree refusals event hroom
    obtain ⟨later, h⟩ := ih h (by omega)
    rw [List.append_assoc] at h
    exact ⟨_, h⟩

end Server

end FileServer
