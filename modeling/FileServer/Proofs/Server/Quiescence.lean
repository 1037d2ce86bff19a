import FileServer.Proofs.Connection.Attempt
import FileServer.Proofs.Connection.Containment
import FileServer.Proofs.Server.Independence

/-!
# The books of a server

All connections move their chunks through one engine. A turn adds to the books the attempts
to move a chunk that are made in it, and the connections that leave the registry in it, as
they are at the end (`Account`). A run of which such books are kept is a run
(`Server.Kept.reached`), and of every run they can be kept (`Server.Reached.kept`).

At every point of a run the engine rests, and its counters agree with the books
(`Server.Quiescent`): two requests for each chunk that was moved, and those that were
accepted in vain. A connection makes at most one attempt in vain, because it leaves in the
same turn (`Server.Kept.inVain`).
-/

namespace FileServer

variable {S : Type}

/-- What is replaced in a registry comes to the rest of it. -/
theorem Registry.perm_replace {token : UInt64} {e : Entry S} {l : Registry S}
    (hn : (tokens l).Nodup) (h : l.lookup token = some e) (o : Option (Entry S)) :
    (replace token o l).Perm ((o.map (token, ·)).toList ++ replace token none l) := by
  induction l with
  | nil => cases h
  | cons r l ih =>
    obtain ⟨hr, hl⟩ := List.nodup_cons.1 hn
    by_cases heq : token = r.1
    · rw [replace_cons_of_eq heq, replace_cons_of_eq heq, replace_of_notMem (heq ▸ hr),
        replace_of_notMem (heq ▸ hr)]
      exact List.Perm.refl _
    · rw [List.lookup_cons, beq_false_of_ne heq] at h
      rw [replace_cons_of_ne (Ne.symm heq), replace_cons_of_ne (Ne.symm heq)]
      exact ((ih hl h).cons r).trans List.perm_middle.symm

/-- What can be seen of one turn, and what it adds to the books. -/
structure Account extends Turn where
  /-- The attempts to move a chunk. -/
  attempts : List Attempt := []
  /-- The connections that left, as they were at the end. -/
  gone : List Connection := []

/-- All attempts to move a chunk. -/
def attemptsIn (history : List Account) : List Attempt := history.flatMap (·.attempts)

/-- All connections that left. -/
def goneIn (history : List Account) : List Connection := history.flatMap (·.gone)

/-- The turns of which the books tell. -/
def turnsOf (history : List Account) : List Turn := history.map (·.toTurn)

namespace Server

variable [Socket S]

/-- The attempts that are made in an event. -/
def attemptsAt (v : Server S) (tree : FileTree) (event : ReadyEvent) : List Attempt :=
  match v.entry? event.token with
  | none => []
  | some e => Session.attempts ⟨v.settings, tree⟩ event.signals (v.session e)

/-- The connection that leaves in an event, as it is then. -/
def goneAt (v : Server S) (tree : FileTree) (refusals : Refusals) (event : ReadyEvent) :
    List Connection :=
  match v.entry? event.token, entry? (v.dispatch tree refusals event) event.token with
  | some e, none => [(v.callsOn tree event e).2.connection]
  | _, _ => []

/-- What an event adds to the books. -/
def dispatchAccount (v : Server S) (tree : FileTree) (refusals : Refusals) (event : ReadyEvent) :
    Account :=
  { v.dispatchTurn tree refusals event with
    attempts := v.attemptsAt tree event
    gone := v.goneAt tree refusals event }

/-- What a server does next, with what this adds to the books. -/
inductive Accounted : Server S → Account → Server S → Prop
  | elapse (v : Server S) (waiting : List (Accepting S)) (sockets : UInt64 → S → S)
      (notes : List Note) : Accounted v {} (v.elapse waiting sockets notes)
  | accept (v : Server S) (a : Arrival S) (hroom : v.registry.length + 1 < UInt64.size) :
      Accounted v { v.acceptTurn a with } (v.addConnection a)
  | dispatch (v : Server S) (tree : FileTree) (refusals : Refusals) (event : ReadyEvent) :
      Accounted v (v.dispatchAccount tree refusals event) (v.dispatch tree refusals event)

/-- What comes after a server was started, and the books that were kept since. -/
inductive Kept : List Account → Server S → Prop
  | bind {n n' : Network} {settings : Settings} {v : Server S}
      (h : Server.bind n settings = .ok (v, n')) : Kept [] v
  | step {history : List Account} {account : Account} {v v' : Server S} (hv : Kept history v)
      (hs : Accounted v account v') : Kept (history ++ [account]) v'

/-- The chunks that the connections in the registry count. -/
def liveChunks (v : Server S) : Nat := (v.registry.map (·.2.connection.chunks)).sum

/-- The chunks that all connections count, those in the registry and those that left. -/
def allChunks (history : List Account) (v : Server S) : Nat :=
  v.liveChunks + ((goneIn history).map (·.chunks)).sum

variable {v v' : Server S} {account : Account} {history : List Account} {event : ReadyEvent}
  {tree : FileTree} {refusals : Refusals}

/-! ### Runs with books -/

theorem Accounted.step (ha : Accounted v account v') : Step v account.toTurn v' := by
  cases ha with
  | elapse waiting sockets notes => exact .elapse v waiting sockets notes
  | accept a hroom => exact .accept v a hroom
  | dispatch tree refusals event => exact .dispatch v tree refusals event

theorem Step.accounted {turn : Turn} (hs : Step v turn v') :
    ∃ account, account.toTurn = turn ∧ Accounted v account v' := by
  cases hs with
  | elapse waiting sockets notes => exact ⟨_, rfl, .elapse v waiting sockets notes⟩
  | accept a hroom => exact ⟨_, rfl, .accept v a hroom⟩
  | dispatch tree refusals event => exact ⟨_, rfl, .dispatch v tree refusals event⟩

theorem turnsOf_append (history : List Account) (account : Account) :
    turnsOf (history ++ [account]) = turnsOf history ++ [account.toTurn] := List.map_append

/-- A run of which books are kept is a run. -/
theorem Kept.reached (hv : Kept history v) : Reached (turnsOf history) v := by
  induction hv with
  | bind h => exact .bind h
  | step hv hs ih =>
    rw [turnsOf_append]
    exact ih.step hs.step

/-- Of every run books can be kept. -/
theorem Reached.kept {turns : List Turn} (hv : Reached turns v) :
    ∃ history, turnsOf history = turns ∧ Kept history v := by
  induction hv with
  | bind h => exact ⟨[], rfl, .bind h⟩
  | step hv hs ih =>
    obtain ⟨history, rfl, hkept⟩ := ih
    obtain ⟨account, rfl, haccount⟩ := hs.accounted
    exact ⟨_, turnsOf_append history account, hkept.step haccount⟩

/-! ### What a turn adds -/

/-- What a turn does to the engine and to the counts of chunks is what it adds to the books. -/
structure Adds (v : Server S) (account : Account) (v' : Server S) : Prop where
  engine : ∃ tags, v'.engine = v.engine.spend tags (Attempt.allAccepted account.attempts)
  chunks : v'.liveChunks + (account.gone.map (·.chunks)).sum =
    v.liveChunks + account.attempts.countP Attempt.moved
  own : ∀ a ∈ account.attempts, a.Own
  /-- An attempt in vain is the last one, and its connection leaves. -/
  last : ∀ a ∈ account.attempts, a.moved = false →
    (∃ front, account.attempts = front ++ [a] ∧ ∀ b ∈ front, b.moved = true) ∧
      ∃ token, account.subject = some token ∧ token ∈ account.left
  /-- Connections that were there or came are there or left. -/
  tokens : (account.gone.map (·.token) ++ v'.tokens).Perm (v.tokens ++ account.came)

omit [Socket S] in
/-- Where nothing is done to the engine and no connection leaves, nothing is added. -/
theorem Adds.nothing {turn : Turn} (hengine : v'.engine = v.engine)
    (hchunks : v'.liveChunks = v.liveChunks) (htokens : v'.tokens = v.tokens ++ turn.came) :
    Adds v { turn with } v' :=
  ⟨⟨0, hengine⟩, hchunks, fun _ ha => absurd ha List.not_mem_nil,
    fun _ ha => absurd ha List.not_mem_nil, List.Perm.of_eq htokens⟩

omit [Socket S] in
/-- A connection that is accepted has no chunks to its count. -/
theorem adds_accept (hv : v.InStep) (hroom : v.registry.length + 1 < UInt64.size) (a : Arrival S) :
    Adds v { v.acceptTurn a with } (v.addConnection a) := by
  have hold : ∀ tokens : List UInt64, (v.tokens ++ tokens).filter (fun token => token ∉ v.tokens) =
      tokens.filter fun token => token ∉ v.tokens := fun tokens => by
    rw [List.filter_append, List.filter_eq_nil_iff.2 fun token h => by simp [h], List.nil_append]
  rcases addConnection_cases hv a with ⟨_, _, h⟩ | ⟨hblocking, notes, h⟩
  · -- It cannot be taken in.
    have hcame : (v.acceptTurn a).came = [] := by
      rw [acceptTurn, h, tokensBut]
      exact (congrArg (List.filter _) (List.append_nil _).symm).trans (hold [])
    rw [h]
    refine .nothing rfl rfl ?_
    rw [hcame, List.append_nil]
    rfl
  · -- It is taken in under a token that was free.
    have hfree := (isFree_iff.1 (isFree_takeToken hroom)).2
    have htokens : (v.welcome a notes).tokens = v.tokens ++ [v.takeToken.1] := List.map_append
    have hcame : (v.acceptTurn a).came = [v.takeToken.1] := by
      rw [acceptTurn, h, tokensBut]
      dsimp only
      rw [htokens, hold, List.filter_cons_of_pos (by simpa using hfree), List.filter_nil]
    rw [h]
    refine .nothing rfl ?_ ?_
    · rw [liveChunks, welcome, List.map_append, List.sum_append]
      rfl
    · rw [hcame]
      exact htokens

/-- A connection that an event is for goes on in it, and then stays or leaves. The others stay as
they are. -/
theorem connections_dispatch (hv : v.InStep) {e : Entry S} (he : v.entry? event.token = some e)
    (tree : FileTree) (refusals : Refusals) :
    ∃ others : List Connection,
      (v.registry.map (·.2.connection)).Perm (e.connection :: others) ∧
      (v.goneAt tree refusals event ++
          (v.dispatch tree refusals event).registry.map (·.2.connection)).Perm
        ((v.callsOn tree event e).2.connection :: others) := by
  obtain ⟨_, hdispatch⟩ := dispatch_eq hv he tree refusals
  have hself := entry?_dispatch_self hv he tree refusals
  have hafter := Registry.perm_replace hv.tokens he ((e.take (v.callsOn tree event e).2).after
    refusals (Session.wishOf (v.callsOn tree event e).1))
  refine ⟨(Registry.replace event.token none v.registry).map (·.2.connection), ?_, ?_⟩
  · have hbefore := Registry.perm_replace hv.tokens he (some e)
    rw [Registry.replace_self hv.tokens he] at hbefore
    exact hbefore.map _
  · rw [goneAt, he, hself, hdispatch]
    rcases houtcome : (e.take (v.callsOn tree event e).2).after refusals
      (Session.wishOf (v.callsOn tree event e).1) with _ | e'
    · -- It leaves.
      rw [houtcome] at hafter
      exact (hafter.map _).cons _
    · -- It stays.
      rw [houtcome] at hafter
      have hconnection : e'.connection = (v.callsOn tree event e).2.connection := by
        rw [(Entry.after_eq_some houtcome).1]
        rfl
      rw [← hconnection]
      exact hafter.map _

omit [Socket S] in
/-- A connection knows the token that it is in the registry under. -/
theorem tokens_eq_map (hv : v.InStep) :
    v.tokens = (v.registry.map (·.2.connection)).map (·.token) := by
  rw [tokens, List.map_map]
  exact List.map_congr_left fun r hr => (hv.token_eq r hr).symm

/-- In an event, the chunks of one connection become more, by those that are moved in it. -/
theorem chunks_dispatch (hv : v.InStep) {e : Entry S} (he : v.entry? event.token = some e) {n : Nat}
    (hchunks : (v.callsOn tree event e).2.connection.chunks = e.connection.chunks + n) :
    (v.dispatch tree refusals event).liveChunks +
        ((v.goneAt tree refusals event).map (·.chunks)).sum = v.liveChunks + n := by
  obtain ⟨others, hbefore, hafter⟩ := connections_dispatch hv he tree refusals
  have hold := (hbefore.map (·.chunks)).sum_nat
  have hnew := (hafter.map (·.chunks)).sum_nat
  rw [List.map_append, List.sum_append_nat] at hnew
  simp only [List.map_map, List.map_cons, List.sum_cons] at hold hnew
  rw [liveChunks, liveChunks]
  simp only [Function.comp_def] at hold hnew
  omega

/-- In an event, no connection comes, and of those that were there one can leave. -/
theorem tokens_dispatch (hv : v.InStep) {e : Entry S} (he : v.entry? event.token = some e)
    (tree : FileTree) (refusals : Refusals) :
    ((v.goneAt tree refusals event).map (·.token) ++
      (v.dispatch tree refusals event).tokens).Perm v.tokens := by
  obtain ⟨others, hbefore, hafter⟩ := connections_dispatch hv he tree refusals
  rw [tokens_eq_map ((Step.dispatch v tree refusals event).inStep hv), tokens_eq_map hv,
    ← List.map_append]
  refine (hafter.map _).trans ?_
  rw [List.map_cons, token_callsOn, ← List.map_cons]
  exact (hbefore.map _).symm

/-- An event adds the attempts that are made in it, and the connection that leaves. -/
theorem adds_dispatch (hv : v.InStep) (hq : v.engine.waiting = []) :
    Adds v (v.dispatchAccount tree refusals event) (v.dispatch tree refusals event) := by
  have hcame : (v.dispatchAccount tree refusals event).came = [] :=
    List.sublist_nil.1 ((Step.dispatch v tree refusals event).came_sublist hv)
  rcases he : v.entry? event.token with _ | e
  · -- Nobody is there whom the event is for.
    have haccount : v.dispatchAccount tree refusals event =
        { v.dispatchTurn tree refusals event with } := by
      rw [dispatchAccount, attemptsAt, goneAt, he]
    rw [dispatch_of_none he]
    rw [haccount] at hcame ⊢
    refine .nothing rfl rfl ?_
    rw [hcame, List.append_nil]
  · -- The attempts are those of the calls on the session of the entry.
    have hmade : (v.session e).Attempted (v.callsOn tree event e).2
        (Session.wishOf (v.callsOn tree event e).1 = some .close)
        (v.dispatchAccount tree refusals event).attempts := by
      rw [dispatchAccount, attemptsAt, he]
      exact Session.attempted_callAll ⟨v.settings, tree⟩ event.signals hq
    constructor
    case engine =>
      obtain ⟨_, hdispatch⟩ := dispatch_eq hv he tree refusals
      obtain ⟨tags, hengine⟩ := hmade.engine
      refine ⟨tags, ?_⟩
      rw [hdispatch]
      exact hengine
    case chunks => exact chunks_dispatch hv he hmade.chunks
    case own => exact hmade.own
    case last =>
      -- An attempt in vain makes the handler ask to close.
      intro a ha hnot
      obtain ⟨hclose, hfront⟩ := hmade.last a ha hnot
      exact ⟨hfront, event.token, rfl, mem_left_dispatch hv he hclose⟩
    case tokens =>
      rw [hcame, List.append_nil]
      exact tokens_dispatch hv he tree refusals

theorem Accounted.adds (ha : Accounted v account v') (hv : v.InStep) (hq : v.engine.waiting = []) :
    Adds v account v' := by
  cases ha with
  | elapse waiting sockets notes =>
    refine .nothing rfl ?_ ?_
    · rw [liveChunks, liveChunks, Server.elapse, List.map_map]
      rfl
    · rw [tokens_elapse]
      exact (List.append_nil _).symm
  | accept a hroom => exact adds_accept hv hroom a
  | dispatch tree refusals event => exact adds_dispatch hv hq

/-! ### The books of a run -/

/-- The engine rests, and its counters agree with the books. -/
structure Quiescent (history : List Account) (v : Server S) : Prop where
  waiting : v.engine.waiting = []
  submitted : v.engine.submitted = Attempt.allAccepted (attemptsIn history)
  completed : v.engine.completed = Attempt.allAccepted (attemptsIn history)
  chunks : allChunks history v = (attemptsIn history).countP Attempt.moved
  own : ∀ a ∈ attemptsIn history, a.Own
  /-- The connections that came are there or left. -/
  tokens : ((goneIn history).map (·.token) ++ v.tokens).Perm (registered (turnsOf history))

theorem attemptsIn_append (history : List Account) (account : Account) :
    attemptsIn (history ++ [account]) = attemptsIn history ++ account.attempts := by
  rw [attemptsIn, List.flatMap_append, List.flatMap_singleton]
  rfl

theorem goneIn_append (history : List Account) (account : Account) :
    goneIn (history ++ [account]) = goneIn history ++ account.gone := by
  rw [goneIn, List.flatMap_append, List.flatMap_singleton]
  rfl

theorem registered_append (history : List Turn) (turn : Turn) :
    registered (history ++ [turn]) = registered history ++ turn.came := by
  rw [registered, List.flatMap_append, List.flatMap_singleton]
  rfl

omit [Socket S] in
/-- A turn keeps the counters in agreement with the books. -/
theorem Adds.quiescent (h : Adds v account v') (hv : Quiescent history v) :
    Quiescent (history ++ [account]) v' := by
  obtain ⟨tags, hengine⟩ := h.engine
  refine ⟨?_, ?_, ?_, ?_, ?_, ?_⟩
  · rw [hengine]
    exact hv.waiting
  · rw [hengine, attemptsIn_append, Attempt.allAccepted_append, ← hv.submitted]
    rfl
  · rw [hengine, attemptsIn_append, Attempt.allAccepted_append, ← hv.completed]
    rfl
  · have hold := hv.chunks
    have hnew := h.chunks
    rw [allChunks] at hold ⊢
    rw [goneIn_append, attemptsIn_append, List.map_append, List.sum_append, List.countP_append]
    omega
  · rw [attemptsIn_append]
    exact fun a ha => (List.mem_append.1 ha).elim (hv.own a) (h.own a)
  · rw [goneIn_append, turnsOf_append, registered_append, List.map_append, List.append_assoc]
    refine (h.tokens.append_left _).trans ?_
    rw [← List.append_assoc]
    exact hv.tokens.append_right _

theorem Kept.quiescent (hv : Kept history v) : Quiescent history v := by
  induction hv with
  | bind h =>
    obtain ⟨-, -, -, hengine, hregistry, -⟩ := bind_eq_ok h
    refine ⟨?_, ?_, ?_, ?_, fun a ha => absurd ha List.not_mem_nil, ?_⟩
    · rw [hengine]
    · rw [hengine]
      rfl
    · rw [hengine]
      rfl
    · rw [allChunks, liveChunks, hregistry]
      rfl
    · rw [tokens, hregistry]
      exact List.Perm.refl _
  | step hv hs ih => exact (hs.adds hv.reached.inStep ih.waiting).quiescent ih

/-- Every turn of a run adds to the books what it does. -/
theorem Kept.adds (hv : Kept history v) :
    ∀ account ∈ history, ∃ v v' : Server S, Accounted v account v' ∧ Adds v account v' := by
  induction hv with
  | bind => exact fun account h => absurd h List.not_mem_nil
  | step hv hs ih =>
    intro account h
    rcases List.mem_append.1 h with h | h
    · exact ih account h
    · rw [List.mem_singleton.1 h]
      exact ⟨_, _, hs, hs.adds hv.reached.inStep hv.quiescent.waiting⟩

/-- No attempt is made in a turn in which no handler is called. -/
theorem Accounted.attempts_eq_nil (ha : Accounted v account v') (h : account.calls = []) :
    account.attempts = [] := by
  cases ha with
  | elapse => rfl
  | accept => rfl
  | dispatch tree refusals event =>
    rw [dispatchAccount, dispatchTurn] at h
    rw [dispatchAccount, attemptsAt]
    dsimp only at h ⊢
    rcases he : v.entry? event.token with _ | e
    · rfl
    · rw [he] at h
      exact Session.attempts_of_nil _ h

/-- An attempt in vain is the last one that is made for its connection, which leaves in the same
    turn. -/
structure InVain (account : Account) (later : List Account) (a : Attempt) : Prop where
  accepted_le : a.accepted ≤ 2
  last : ∃ front, account.attempts = front ++ [a] ∧ ∀ b ∈ front, b.moved = true
  leaves : ∃ token, account.subject = some token ∧ token ∈ account.left ∧
    ((∀ b ∈ later, token ∉ b.came) → ∀ b ∈ later, b.subject = some token → b.attempts = [])

theorem Kept.inVain (hv : Kept history v) {front later : List Account} {a : Attempt}
    (h : history = front ++ account :: later) (ha : a ∈ account.attempts)
    (hnot : a.moved = false) : InVain account later a := by
  have hmem : ∀ b ∈ account :: later, b ∈ history := fun b hb => by
    rw [h]
    exact List.mem_append_right _ hb
  obtain ⟨_, _, -, hadds⟩ := hv.adds account (hmem _ List.mem_cons_self)
  obtain ⟨hlast, token, hsubject, hleft⟩ := hadds.last a ha hnot
  refine ⟨(hadds.own a ha).accepted_le, hlast, token, hsubject, hleft, ?_⟩
  intro hcame b hb hb'
  have hturns : turnsOf history = turnsOf front ++ account.toTurn :: turnsOf later := by
    rw [h, turnsOf, List.map_append]
    rfl
  have hcame' : ∀ turn ∈ turnsOf later, token ∉ turn.came := by
    intro turn hturn
    obtain ⟨c, hc, rfl⟩ := List.mem_map.1 hturn
    exact hcame c hc
  obtain ⟨-, halone⟩ := hv.reached.left_alone hturns hleft hcame'
  obtain ⟨_, _, haccount, -⟩ := hv.adds b (hmem b (List.mem_cons_of_mem _ hb))
  exact haccount.attempts_eq_nil ((halone _ (List.mem_map.2 ⟨b, hb, rfl⟩)).2 hb')

/-- At every point of every run nothing waits in the engine, and as many requests were completed as
    were submitted: two for each chunk that was ever moved, and those that were accepted in vain.
    Every request got its own completion, and a connection makes one attempt in vain at most,
    as the last of its attempts, and leaves in the same turn. -/
theorem Kept.books_agree (hv : Kept history v) :
    (v.engine.waiting = [] ∧ v.engine.submitted = v.engine.completed ∧
      v.engine.submitted = 2 * allChunks history v + Attempt.vain (attemptsIn history) ∧
      ((goneIn history).map (·.token) ++ v.tokens).Perm (registered (turnsOf history))) ∧
    (∀ a ∈ attemptsIn history, a.Own) ∧
    (∀ front account later a, history = front ++ account :: later → a ∈ account.attempts →
      a.moved = false → InVain account later a) ∧
    ((∀ a ∈ attemptsIn history, a.moved = true) →
      v.engine.submitted = 2 * allChunks history v ∧
        v.engine.completed = 2 * allChunks history v) := by
  have hq := hv.quiescent
  have hsum : Attempt.allAccepted (attemptsIn history) =
      2 * allChunks history v + Attempt.vain (attemptsIn history) := by
    rw [hq.chunks]
    exact Attempt.allAccepted_eq hq.own
  refine ⟨⟨hq.waiting, hq.submitted.trans hq.completed.symm, hq.submitted.trans hsum, hq.tokens⟩,
    hq.own, fun front account later a h ha hnot => hv.inVain h ha hnot, fun hmoved => ?_⟩
  have hvain : Attempt.vain (attemptsIn history) = 0 := by
    rw [Attempt.vain, List.filter_eq_nil_iff.2 fun a ha => by simp [hmoved a ha]]
    rfl
  rw [hvain, Nat.add_zero] at hsum
  exact ⟨hq.submitted.trans hsum, hq.completed.trans hsum⟩

end Server

/-! ### A document that shrinks -/

/-- One handler that is called. -/
theorem Session.callAll_singleton [Socket S] (site : Site) (signal : Signal) (s : Session S) :
    s.callAll site [signal] = ([(signal, (s.handle site signal).1)], (s.handle site signal).2) := by
  by_cases h : (s.handle site signal).1 = .close
  · rw [callAll_cons_of_close h, h]
  · exact callAll_cons_of_ne h

theorem Session.attempts_singleton [Socket S] (site : Site) (signal : Signal) (s : Session S) :
    attempts site [signal] s = (s.attempt? site signal).toList := by
  rw [attempts, attempts, ite_self, List.append_nil]

namespace Shrunk

/-- A site with one document, which is moved in chunks. -/
def site (content : Bytes) : Site where
  settings := {}
  tree := {
    nodes := [(["work".toList], .directory), (["work".toList, "dynamic".toList], .directory),
      (["work".toList, "dynamic".toList, "a".toList], .file 0)]
    contents := [(0, .ofBytes content)]
    fresh := 1
    home := ["work".toList] }

/-- The document at first, and after it was cut. -/
def whole : Bytes := [104, 105]
def cut : Bytes := [104]

def request : Bytes := Bytes.ofString "GET /dynamic/a HTTP/1.0\r\n\r\n"

/-- A client that asks for the document. -/
def reader : Arrival Duplex := { socket := { inbound := request }, peer := "10.0.0.1:4000" }

/-- The connection after each of its handlers. -/
def accepted : Connection := { token := 1, peer := "10.0.0.1:4000" }
def heard : Connection := { accepted with received := request, phase := .requestReceived }
def found : Connection := { heard with
  resource := .dynamic, path := some "/dynamic/a", file := some 0, phase := .sendingHeader }
def announced : Connection := found.announce ⟨.ok, 2⟩
def turned : Connection :=
  (announced.passHeader announced.header.remaining).goTo .movingChunks

variable {content : Bytes} {d d' : Duplex} {notes : List Note}

theorem handle_accepted : ∃ notes', (Session.mk accepted ({ inbound := request } : Duplex) {}
    notes).handle (site content) (.readable false) = (.write, ⟨heard, {}, {}, notes'⟩) := by
  show ∃ notes', Session.finish (Session.receive 8192 _) = _
  rw [Session.receive]
  exact ⟨_, rfl⟩

theorem read_request :
    RequestHead.read request = .ok (⟨"GET", "/dynamic/a", 0⟩, request.length) :=
  eq_ok_of_toOption (by decide +kernel)

theorem openRegular_site : (site content).tree.openRegular "./dynamic/a" = .ok 0 := by
  have hsteps : FileTree.steps "./dynamic/a".toList =
      [Path.here, "dynamic".toList, "a".toList] := rfl
  have hwalk : (site content).tree.walk FileTree.maxLinks ["work".toList]
      [Path.here, "dynamic".toList, "a".toList] = .ok (.taken
        ["work".toList, "dynamic".toList, "a".toList] (.file 0)) := by
    rw [FileTree.walk, if_pos rfl, FileTree.walk_directory (by decide) (by decide) (by decide) rfl,
      FileTree.walk]
    rfl
  have hlocate : (site content).tree.locate "./dynamic/a" = .ok (.taken
      ["work".toList, "dynamic".toList, "a".toList] (.file 0)) := by
    rw [FileTree.locate, if_neg (by decide +kernel), if_neg (by decide +kernel),
      if_neg (by decide +kernel), hsteps]
    exact hwalk
  rw [FileTree.openRegular, FileTree.find, hlocate]
  rfl

theorem handle_heard : ∃ notes', (Session.mk heard d {} notes).handle (site content) .writable =
    (.write, ⟨found, d, {}, notes'⟩) := by
  have hread : RequestHead.read heard.received =
      .ok (⟨"GET", "/dynamic/a", 0⟩, heard.received.length) := read_request
  have hclass : (site content).settings.folders.classify "/dynamic/a" = .dynamic :=
    show Folders.classify (Settings.folders {}) "/dynamic/a" = _ by decide +kernel
  have hresolve : Folders.resolve (site content).settings.documentRoot "/dynamic/a" =
      some "./dynamic/a" := show Folders.resolve "." "/dynamic/a" = _ from rfl
  show ∃ notes', Session.finish (.ok .write, Session.processRequest (site content) _) = _
  rw [Session.processRequest, hread]
  simp only [if_pos, Session.serve, Session.openDocument, hclass, Session.note_connection,
    Session.update_connection, hresolve, openRegular_site]
  exact ⟨_, rfl⟩

theorem handle_found : ∃ notes', (Session.mk found d {} notes).handle (site whole) .writable =
    (.write, ⟨announced, d, {}, notes'⟩) := ⟨_, rfl⟩

theorem handle_announced : ∃ notes', (Session.mk announced ({} : Duplex) {} notes).handle
    (site content) .writable = (.write, ⟨turned, { outbound := announced.header.content }, {},
      notes'⟩) := by
  have hsend : Sink.send ({} : Duplex) announced.header.rest =
      (.took announced.header.remaining, { outbound := announced.header.content }) := rfl
  have hflush := SendBuffer.flush_of_took hsend (by decide)
  show ∃ notes', Session.finish (Session.sendData (site content) _) = _
  rw [Session.sendData, hflush]
  exact ⟨_, rfl⟩

/-- The read finds one byte where two were announced. -/
theorem attempt_turned : Session.attempt? (site cut) (Session.mk turned d {} notes) .writable =
    some ⟨2, ⟨1, .ok 1, .ok 1⟩, none⟩ := rfl

/-- The server at rest, with a connection under the first token. -/
structure Holds (v : Server Duplex) (c : Connection) (d : Duplex) : Prop where
  inStep : v.InStep
  settings : v.settings = {}
  engine : v.engine = {}
  entry : ∃ e, v.entry? 1 = some e ∧ e.connection = c ∧ e.socket = d

/-- The client can be read, or written to. -/
def event : Signal → ReadyEvent
  | .readable hangup => ⟨1, !hangup, false, hangup⟩
  | .writable => ⟨1, false, true, false⟩

variable {v : Server Duplex} {c c' : Connection} {signal : Signal}

theorem signals_event (signal : Signal) : (event signal).signals = [signal] := by
  rcases signal with hangup | _
  · cases hangup <;> rfl
  · rfl

theorem Holds.next (h : Holds v c d) (signal : Signal)
    (hcall : ∀ notes, ∃ notes', (Session.mk c d {} notes).handle (site content) signal =
      (.write, ⟨c', d', {}, notes'⟩)) :
    Holds (v.dispatch (site content).tree {} (event signal)) c' d' := by
  obtain ⟨e, he, rfl, rfl⟩ := h.entry
  obtain ⟨notes', hcall⟩ := hcall v.notes
  have hcalls : v.callsOn (site content).tree (event signal) e =
      ([(signal, .write)], ⟨c', d', {}, notes'⟩) := by
    rw [Server.callsOn, h.settings, signals_event, Server.session, h.engine,
      Session.callAll_singleton]
    exact congrArg (fun m => ([(signal, Prod.fst m)], Prod.snd m)) hcall
  -- The event calls the one handler, and the entry takes what this leaves.
  have htoken : (event signal).token = 1 := by cases signal <;> rfl
  rw [← htoken] at he
  obtain ⟨notes, hdispatch⟩ := Server.dispatch_eq h.inStep he (site content).tree {}
  have hself := Server.entry?_dispatch_self h.inStep he (site content).tree {}
  rw [hcalls] at hdispatch hself
  refine ⟨h.inStep.dispatch _ {} _, ?_, ?_, ?_⟩
  · rw [hdispatch]
    exact h.settings
  · rw [hdispatch]
    rfl
  · -- It is watched for writing, whether it was so before or not.
    rw [← htoken, hself]
    show ∃ e', Entry.await? _ {} .write = some e' ∧ _
    rw [Entry.await?]
    split
    · exact ⟨_, rfl, rfl, rfl⟩
    · exact ⟨_, rfl, rfl, rfl⟩

theorem Holds.attemptsAt_eq (h : Holds v c d) (signal : Signal) (content : Bytes) :
    v.attemptsAt (site content).tree (event signal) =
      (Session.attempt? (site content) ⟨c, d, {}, v.notes⟩ signal).toList := by
  obtain ⟨e, he, rfl, rfl⟩ := h.entry
  have htoken : (event signal).token = 1 := by cases signal <;> rfl
  rw [Server.attemptsAt, htoken, he, signals_event]
  dsimp only
  rw [Session.attempts_singleton, Server.session, h.settings, h.engine]
  rfl

/-- The server when the client was accepted, and after each event. -/
def welcomed : Server Duplex := Callers.started.addConnection reader
def listening : Server Duplex := welcomed.dispatch (site whole).tree {} (event (.readable false))
def finding : Server Duplex := listening.dispatch (site whole).tree {} (event .writable)
def announcing : Server Duplex := finding.dispatch (site whole).tree {} (event .writable)
def turning : Server Duplex := announcing.dispatch (site whole).tree {} (event .writable)
def parting : Server Duplex := turning.dispatch (site cut).tree {} (event .writable)

/-- What the last event adds to the books. -/
def parted : Account := turning.dispatchAccount (site cut).tree {} (event .writable)

/-- The books up to then. -/
def earlier : List Account :=
  [{ Callers.started.acceptTurn reader with },
    welcomed.dispatchAccount (site whole).tree {} (event (.readable false)),
    listening.dispatchAccount (site whole).tree {} (event .writable),
    finding.dispatchAccount (site whole).tree {} (event .writable),
    announcing.dispatchAccount (site whole).tree {} (event .writable)]

theorem kept_turning : Server.Kept earlier turning :=
  (((((Server.Kept.bind Callers.bind_default).step (.accept Callers.started reader (by decide))).step
    (.dispatch welcomed _ _ _)).step (.dispatch listening _ _ _)).step
    (.dispatch finding _ _ _)).step (.dispatch announcing _ _ _)

theorem kept_parting : Server.Kept (earlier ++ [parted]) parting :=
  kept_turning.step (.dispatch turning _ _ _)

theorem holds_welcomed : Holds welcomed accepted { inbound := request } where
  inStep := (Server.Reached.step (.bind Callers.bind_default)
    (.accept Callers.started reader (by decide))).inStep
  settings := rfl
  engine := rfl
  entry := ⟨_, rfl, rfl, rfl⟩

theorem holds_announcing : Holds welcomed accepted { inbound := request } ∧
    Holds listening heard {} ∧ Holds finding found {} ∧ Holds announcing announced {} := by
  have h₁ : Holds listening heard {} := holds_welcomed.next (.readable false) fun _ => handle_accepted
  have h₂ : Holds finding found {} := h₁.next .writable fun _ => handle_heard
  exact ⟨holds_welcomed, h₁, h₂, h₂.next .writable fun _ => handle_found⟩

theorem attempts_parted : parted.attempts = [⟨2, ⟨1, .ok 1, .ok 1⟩, none⟩] := by
  have h : Holds turning turned { outbound := announced.header.content } :=
    holds_announcing.2.2.2.next .writable fun _ => handle_announced
  rw [parted, Server.dispatchAccount, h.attemptsAt_eq, attempt_turned]
  rfl

/-- The only attempt is the last one. -/
theorem attempts_books : attemptsIn (earlier ++ [parted]) = [⟨2, ⟨1, .ok 1, .ok 1⟩, none⟩] := by
  obtain ⟨h₀, h₁, h₂, h₃⟩ := holds_announcing
  have hearlier : attemptsIn earlier = [] := by
    simp only [earlier, attemptsIn, List.flatMap_cons, List.flatMap_nil, Server.dispatchAccount,
      h₀.attemptsAt_eq, h₁.attemptsAt_eq, h₂.attemptsAt_eq, h₃.attemptsAt_eq]
    rfl
  rw [Server.attemptsIn_append, hearlier, attempts_parted]
  rfl

end Shrunk

/-- A document loses a byte after it was announced: the read that was to fill the chunk is the one
    request in the books, and the connection leaves. -/
theorem Server.books_agree_shrunk : Kept (Shrunk.earlier ++ [Shrunk.parted]) Shrunk.parting ∧
    attemptsIn (Shrunk.earlier ++ [Shrunk.parted]) = [⟨2, ⟨1, .ok 1, .ok 1⟩, none⟩] ∧
    Shrunk.parting.engine.submitted = Shrunk.parting.engine.completed ∧
    Shrunk.parting.engine.submitted = 1 ∧ 1 ∈ Shrunk.parted.left := by
  have hattempts := Shrunk.attempts_books
  obtain ⟨⟨-, hsame, hsubmitted, -⟩, -, hvain, -⟩ := Kept.books_agree Shrunk.kept_parting
  have hchunks := Shrunk.kept_parting.quiescent.chunks
  rw [hattempts] at hsubmitted hchunks
  rw [hchunks] at hsubmitted
  have hmem : ⟨2, ⟨1, .ok 1, .ok 1⟩, none⟩ ∈ Shrunk.parted.attempts := by
    rw [Shrunk.attempts_parted]
    exact List.mem_singleton.2 rfl
  obtain ⟨-, -, token, hsubject, hleft, -⟩ := hvain Shrunk.earlier Shrunk.parted [] _ rfl hmem rfl
  obtain rfl := Option.some.inj hsubject
  exact ⟨Shrunk.kept_parting, hattempts, hsame, hsubmitted, hleft⟩

end FileServer
