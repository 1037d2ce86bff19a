import FileServer.Proofs.Connection.Order
import FileServer.Server.Dispatch

/-!
# What an event calls

An event calls the handlers of a connection one after the other, and none behind one that
wants the connection closed (`Session.callAll`). That `Server.runHandlers` does just this is
`Server.runHandlers_eq`; so what every call preserves, an event preserves
(`Session.callAll_preserves`).

What the last handler wants is what the connection waits for in the phase that it is left in
(`Session.callAll_interest`): something to read as long as the request is to come, and to
write from then on. This rests on every exit of every handler, in `Connection.Intake` and
`Connection.Output`.
-/

namespace FileServer

variable {S : Type}

/-- The handlers that an event calls, in order. -/
def ReadyEvent.signals (event : ReadyEvent) : List Signal :=
  (if event.readable || event.hangup then [.readable event.hangup] else []) ++
    if event.writable then [.writable] else []

/-- What is to be waited for, if the connection is not to be closed. -/
def Next.interest : Next → Option Interest
  | read => some .read
  | write => some .write
  | close => none

/-- What a connection waits for in a phase. -/
def Phase.interest : Phase → Option Interest
  | initial | receiving => some .read
  | closed => none
  | _ => some .write

namespace Connection

variable {site : Site} {quiet : Prop} {next : Next} {w : Bytes} {c c' : Connection}

theorem Intake.token_eq (h : Intake c next c') : c'.token = c.token := by
  cases h <;> rfl

theorem Output.token_eq (h : Output site quiet c next w c') : c'.token = c.token := by
  cases h <;> rfl

theorem interest_finalPhase (c : Connection) : c.finalPhase.interest = some .write := by
  rw [finalPhase]
  split
  · rfl
  · split <;> rfl

/-- Readability wants what the phase waits for. -/
theorem Intake.interest_eq (h : Intake c next c') (hc : c.InOrder) (hn : next ≠ .close) :
    c'.phase.interest = next.interest := by
  cases h with
  | receives bytes hp hw =>
    cases next with
    | read => rfl
    | write => exact absurd rfl hw
    | close => exact absurd rfl hn
  | completes => rfl
  | ignores hi hr hread =>
    cases next with
    | read => exact absurd rfl hread
    | close => exact absurd rfl hn
    | write =>
      rw [InOrder] at hc
      split at hc
      iterate 10 simp_all [Phase.interest, Next.interest]
      exact hc.elim

/-- Writability wants what the phase waits for. -/
theorem Output.interest_eq (h : Output site quiet c next w c') (hn : next ≠ .close) :
    c'.phase.interest = next.interest := by
  cases h with
  | early hp => rcases hp with hp | hp <;> rw [hp] <;> rfl
  | late | loses | losesChunk => exact absurd rfl hn
  | finds | misses | announcesPage | announcesNothing | announcesDocument
  | announcesNoDocument | turnsToChunks => rfl
  | sendsHeaderPart hp hk hread =>
    cases next with
    | read => exact absurd rfl hread
    | write => exact congrArg Phase.interest hp
    | close => exact absurd rfl hn
  | sendsHeader | sendsBody | movesNothing => exact interest_finalPhase _
  | sendsBodyPart hp hd hk hlen hnext =>
    obtain rfl := (hnext.resolve_right hn).1
    exact congrArg Phase.interest hp
  | movesChunk chunk hp =>
    simp only [passChunk]
    split
    · rfl
    · rw [hp]
      rfl

end Connection

namespace Session

variable [Socket S] {site : Site} {s : Session S}

/-- Calls handlers one after the other, and none behind one that wants the connection closed.
    Tells which were called, each with what it wanted. -/
def callAll (site : Site) : List Signal → Session S → List (Signal × Next) × Session S
  | [], s => ([], s)
  | signal :: rest, s =>
    let (next, s) := s.handle site signal
    if next = .close then ([(signal, next)], s)
    else
      let (calls, s) := s.callAll site rest
      ((signal, next) :: calls, s)

/-- What the last of the handlers that were called wanted. -/
def wishOf (calls : List (Signal × Next)) : Option Next := calls.getLast?.map (·.2)

theorem callAll_cons_of_close {signal : Signal} {rest : List Signal}
    (h : (s.handle site signal).1 = .close) :
    s.callAll site (signal :: rest) = ([(signal, .close)], (s.handle site signal).2) := by
  rw [callAll]
  simp only [h, if_true]

theorem callAll_cons_of_ne {signal : Signal} {rest : List Signal}
    (h : (s.handle site signal).1 ≠ .close) :
    s.callAll site (signal :: rest) = ((signal, (s.handle site signal).1) ::
      ((s.handle site signal).2.callAll site rest).1,
        ((s.handle site signal).2.callAll site rest).2) := by
  rw [callAll]
  simp only [if_neg h]

/-- What every call preserves, all calls preserve. -/
theorem callAll_preserves {motive : Session S → Prop}
    (call : ∀ {s} signal, motive s → motive (s.handle site signal).2) (signals : List Signal)
    (hs : motive s) : motive (s.callAll site signals).2 := by
  induction signals generalizing s with
  | nil => exact hs
  | cons signal rest ih =>
    by_cases h : (s.handle site signal).1 = .close
    · rw [callAll_cons_of_close h]
      exact call signal hs
    · rw [callAll_cons_of_ne h]
      exact ih (call signal hs)

/-- Behind a handler that wants the connection closed none is called. -/
theorem eq_nil_of_callAll {signals : List Signal} {front back : List (Signal × Next)}
    {signal : Signal} (h : (s.callAll site signals).1 = front ++ (signal, .close) :: back) :
    back = [] := by
  induction signals generalizing s front with
  | nil => exact absurd h.symm (List.append_ne_nil_of_right_ne_nil _ (List.cons_ne_nil _ _))
  | cons signal' rest ih =>
    by_cases hclose : (s.handle site signal').1 = .close
    · rw [callAll_cons_of_close hclose] at h
      cases front with
      | nil => exact (List.cons.inj h).2.symm
      | cons call front =>
        have hnil := (List.cons.inj h).2.symm
        exact absurd hnil (List.append_ne_nil_of_right_ne_nil _ (List.cons_ne_nil _ _))
    · rw [callAll_cons_of_ne hclose] at h
      cases front with
      | nil => exact absurd (congrArg Prod.snd (List.cons.inj h).1) hclose
      | cons call front => exact ih (List.cons.inj h).2

/-- No call changes by what token a connection is known. -/
theorem token_handle (signal : Signal) :
    (s.handle site signal).2.connection.token = s.connection.token := by
  cases signal with
  | readable hangup => exact (intake_readable site hangup s).token_eq
  | writable =>
    obtain ⟨w, ho⟩ := output_onWritable site s
    exact ho.token_eq

/-- A handler that does not want the connection closed wants what the phase waits for. -/
theorem interest_handle (signal : Signal) (hc : s.connection.InOrder)
    (hn : (s.handle site signal).1 ≠ .close) :
    (s.handle site signal).2.connection.phase.interest = (s.handle site signal).1.interest := by
  cases signal with
  | readable hangup => exact (intake_readable site hangup s).interest_eq hc hn
  | writable =>
    obtain ⟨w, ho⟩ := output_onWritable site s
    exact ho.interest_eq hn

/-- Where no handler is called nothing changes. -/
theorem callAll_of_nil {signals : List Signal} (h : (s.callAll site signals).1 = []) :
    (s.callAll site signals).2 = s := by
  cases signals with
  | nil => rfl
  | cons signal rest =>
    by_cases hclose : (s.handle site signal).1 = .close
    · rw [callAll_cons_of_close hclose] at h
      exact absurd h (List.cons_ne_nil _ _)
    · rw [callAll_cons_of_ne hclose] at h
      exact absurd h (List.cons_ne_nil _ _)

theorem wishOf_eq_none {calls : List (Signal × Next)} (h : wishOf calls = none) : calls = [] :=
  List.getLast?_eq_none_iff.1 (Option.map_eq_none_iff.1 h)

/-- What the last handler wants is what the phase waits for. -/
theorem callAll_interest {signals : List Signal} {next : Next} (hc : s.connection.InOrder)
    (hw : wishOf (s.callAll site signals).1 = some next) (hn : next ≠ .close) :
    (s.callAll site signals).2.connection.phase.interest = next.interest := by
  induction signals generalizing s with
  | nil => cases hw
  | cons signal rest ih =>
    by_cases hclose : (s.handle site signal).1 = .close
    · rw [callAll_cons_of_close hclose] at hw
      exact absurd (Option.some.inj hw).symm hn
    · rw [callAll_cons_of_ne hclose] at hw ⊢
      -- If a handler is called behind this one, it is the one that counts.
      cases hcalls : ((s.handle site signal).2.callAll site rest).1 with
      | nil =>
        rw [hcalls] at hw
        obtain rfl := Option.some.inj hw
        rw [callAll_of_nil hcalls]
        exact interest_handle signal hc hn
      | cons call calls =>
        rw [hcalls, wishOf, List.getLast?_cons_cons] at hw
        refine ih (inOrder_handle signal hc) ?_
        rw [hcalls]
        exact hw

end Session

/-- The handlers of an event are called one after the other. -/
theorem Server.runHandlers_eq [Socket S] (site : Site) (event : ReadyEvent) (s : Session S) :
    runHandlers site event s = (Session.wishOf (s.callAll site event.signals).1,
      (s.callAll site event.signals).2) := by
  rw [runHandlers, ReadyEvent.signals]
  cases event.readable || event.hangup with
  | false =>
    cases event.writable with
    | false => rfl
    | true =>
      by_cases h : (s.onWritable site).1 = .close
      · simp [Session.callAll, Session.handle, Session.wishOf, h]
      · simp [Session.callAll, Session.handle, Session.wishOf, h]
  | true =>
    by_cases h : (s.onReadable site event.hangup).1 = .close
    · simp [Session.callAll, Session.handle, Session.wishOf, h]
    · cases event.writable with
      | false => simp [Session.callAll, Session.handle, Session.wishOf, h]
      | true =>
        by_cases h' : ((s.onReadable site event.hangup).2.onWritable site).1 = .close
        · simp [Session.callAll, Session.handle, Session.wishOf, h, h']
        · simp [Session.callAll, Session.handle, Session.wishOf, h, h']

end FileServer
