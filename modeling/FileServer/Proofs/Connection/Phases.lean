import FileServer.Proofs.Connection.Order
import FileServer.Proofs.Connection.Record

/-!
# The phases of a connection

A connection goes from phase to phase along a few edges (`Phase.Edge`), none of which
leads back. Every move is noted, so the notes that a call takes tell the way it went:
they are a trail along the edges from the phase before to the phase after
(`Session.follows_handle`).
-/

namespace FileServer

variable {S : Type}

namespace Phase

/-- From a phase to the next. -/
inductive Edge : Phase → Phase → Prop
  | listen : Edge .initial .receiving
  | complete : Edge .receiving .requestReceived
  | miss : Edge .requestReceived .sendingNotFound
  | find : Edge .requestReceived .sendingHeader
  | announcePage : Edge .sendingNotFound .sendingData
  | announceDocument : Edge .sendingHeader .sendingData
  | turnToChunks : Edge .sendingData .movingChunks
  | endDocument : Edge .sendingData .dataSent
  | endEmpty : Edge .sendingData .headerSent
  | endPage : Edge .sendingData .notFoundSent
  | endChunks : Edge .movingChunks .dataSent

/-- How far a phase is from the beginning. -/
def rank : Phase → Nat
  | initial => 0
  | receiving => 1
  | requestReceived => 2
  | sendingNotFound | sendingHeader => 3
  | sendingData => 4
  | movingChunks => 5
  | dataSent | headerSent | notFoundSent => 6
  | closed => 7

/-- The text of the note that is taken of a move. -/
def moveText : String := "state transition"

/-- The note that is taken of a move. -/
def moveNote (token : UInt64) (p q : Phase) : Note :=
  ⟨.trace, moveText, [("token", toString token), ("from", p.name), ("to", q.name)]⟩

/-- The notes tell a way from one phase to another: those of moves are, in order, the
    edges of the way. -/
inductive Trail : Phase → List Note → Phase → Prop
  | stay {p : Phase} : Trail p [] p
  | other {p q : Phase} {n : Note} {notes : List Note} : n.text ≠ moveText → Trail p notes q →
      Trail p (n :: notes) q
  | move {p q r : Phase} {notes : List Note} (token : UInt64) : Edge p q → Trail q notes r →
      Trail p (moveNote token p q :: notes) r

theorem Edge.rank_lt {p q : Phase} (h : Edge p q) : p.rank < q.rank := by
  cases h <;> decide

/-- A way leads on, or nowhere. -/
theorem Trail.rank_lt {p q : Phase} {notes : List Note} (h : Trail p notes q) :
    p = q ∨ p.rank < q.rank := by
  induction h with
  | stay => exact .inl rfl
  | other _ _ ih => exact ih
  | move _ he _ ih =>
    have := he.rank_lt
    rcases ih with rfl | ih
    · exact .inr this
    · exact .inr (Nat.lt_trans this ih)

theorem Trail.append {p q r : Phase} {notes notes' : List Note} (h : Trail p notes q)
    (h' : Trail q notes' r) : Trail p (notes ++ notes') r := by
  induction h with
  | stay => exact h'
  | other hn _ ih => exact .other hn (ih h')
  | move token he _ ih => exact .move token he (ih h')

/-- Notes of other things tell nothing of moves. -/
theorem Trail.of_forall {p : Phase} {notes : List Note} (h : ∀ n ∈ notes, n.text ≠ moveText) :
    Trail p notes p := by
  induction notes with
  | nil => exact .stay
  | cons n notes ih =>
    exact .other (h n List.mem_cons_self) (ih fun m hm => h m (List.mem_cons_of_mem _ hm))

end Phase

namespace Session

open Phase

/-- One session follows another: the notes it has more tell the way its connection
    went. -/
def Follows (s t : Session S) : Prop :=
  ∃ notes, t.notes = s.notes ++ notes ∧ Trail s.connection.phase notes t.connection.phase

theorem Follows.trans {s t u : Session S} (h : s.Follows t) (h' : t.Follows u) : s.Follows u := by
  obtain ⟨notes, hn, ht⟩ := h
  obtain ⟨notes', hn', ht'⟩ := h'
  exact ⟨notes ++ notes', by rw [hn', hn, List.append_assoc], ht.append ht'⟩

/-- What takes no note of a move and makes none. -/
theorem Follows.of_notes {s t : Session S} {notes : List Note} (hn : t.notes = s.notes ++ notes)
    (hm : ∀ n ∈ notes, n.text ≠ moveText) (hp : t.connection.phase = s.connection.phase) :
    s.Follows t :=
  ⟨notes, hn, hp ▸ Trail.of_forall hm⟩

/-- What takes no note and makes no move. -/
theorem Follows.of_eq {s t : Session S} (hn : t.notes = s.notes)
    (hp : t.connection.phase = s.connection.phase) : s.Follows t :=
  .of_notes (by rw [hn, List.append_nil]) (by simp) hp

theorem follows_note {s : Session S} {level : Level} {text : String}
    {details : List (String × String)} (h : text ≠ moveText) :
    s.Follows (s.note level text details) :=
  .of_notes rfl (by simpa using h) rfl

/-- To change other fields of the connection is no move. -/
theorem follows_update {s : Session S} {f : Connection → Connection}
    (h : (f s.connection).phase = s.connection.phase) : s.Follows (s.update f) :=
  .of_eq rfl h

theorem follows_enter {s : Session S} {phase : Phase} (h : Edge s.connection.phase phase) :
    s.Follows (s.enter phase) :=
  ⟨[moveNote s.connection.token s.connection.phase phase], rfl, .move _ h .stay⟩

/-! ### The handlers -/

theorem follows_finish (handled : Handled S) : handled.2.Follows (finish handled).2 := by
  rcases handled with ⟨_ | next, s⟩
  · simp only [finish]
    split
    · exact .of_eq rfl rfl
    · exact follows_note (by decide)
    · exact follows_note (by decide)
  · exact .of_eq rfl rfl

theorem follows_append {s : Session S} {socket : S} {bytes : Bytes} :
    s.Follows (s.append socket bytes) := .of_notes rfl (by simp [moveText]) rfl

theorem follows_receive [Socket S] {limit : Nat} {s : Session S}
    (hp : s.connection.phase = .receiving) : s.Follows (s.receive limit).2 := by
  fun_induction receive limit s with
  | case1 s before h =>
    -- The size is reached.
    refine .trans (follows_note (by decide)) (follows_enter ?_)
    exact hp ▸ .complete
  | case2 s before h socket hr | case6 s before h socket hr | case7 s before h e socket hr =>
    -- Nothing came.
    exact .of_eq rfl rfl
  | case3 s before h b bs socket hr s' hb =>
    -- A blank line came.
    refine follows_append.trans (follows_enter ?_)
    exact (show s'.connection.phase = .receiving from hp) ▸ .complete
  | case4 s before h b bs socket hr s' hb ih => exact follows_append.trans (ih hp)
  | case5 s before h socket hr ih => exact .trans (.of_eq rfl rfl) (ih hp)

theorem follows_readable [Socket S] {site : Site} {hangup : Bool} {s : Session S} :
    s.Follows (s.readable site hangup).2 := by
  rw [readable]
  split
  · rename_i hp
    exact (follows_enter (hp ▸ .listen)).trans (follows_receive rfl)
  · rename_i hp
    exact follows_receive hp
  · exact .of_eq rfl rfl
  · split
    · exact follows_note (by decide)
    · exact .of_eq rfl rfl

theorem follows_refuse {s : Session S} (hp : s.connection.phase = .requestReceived) :
    s.Follows s.refuse := follows_enter (hp ▸ .miss)

theorem follows_openDocument {site : Site} {s : Session S} {path : String} :
    s.Follows (s.openDocument site path).2 := by
  rw [openDocument]
  split
  · exact .of_eq rfl rfl
  split
  · exact .of_eq rfl rfl
  split
  · exact .of_eq rfl rfl
  · exact follows_note (by decide)

theorem follows_serve {site : Site} {s : Session S} {head : RequestHead}
    (hp : s.connection.phase = .requestReceived) : s.Follows (s.serve site head) := by
  unfold serve
  extract_lets resource s₁
  have h₁ : s.Follows s₁ := .of_notes rfl (by simp [moveText]) rfl
  have h₂ : s₁.Follows (s₁.openDocument site head.path).2 := follows_openDocument
  have hp₂ : (s₁.openDocument site head.path).2.connection.phase = .requestReceived := by
    rw [(openDocument_frame site s₁ head.path).1]
    exact hp
  rcases hopen : s₁.openDocument site head.path with ⟨file, s₂⟩
  rw [hopen] at h₂ hp₂
  dsimp only at h₂ hp₂ ⊢
  refine (h₁.trans h₂).trans ?_
  split
  · exact .trans (.of_eq rfl rfl) (follows_enter (hp₂ ▸ .find))
  · exact .trans (.of_eq rfl rfl) (follows_refuse hp₂)

theorem follows_processRequest {site : Site} {s : Session S}
    (hp : s.connection.phase = .requestReceived) : s.Follows (s.processRequest site) := by
  rw [processRequest]
  split
  · exact .trans (follows_note (by decide)) (follows_refuse hp)
  split
  · exact follows_serve hp
  · exact .trans (follows_note (by decide)) (follows_refuse hp)

theorem follows_startBody {s : Session S} {header : ResponseHeader}
    (hp : Edge s.connection.phase .sendingData) : s.Follows (s.startBody header) := by
  unfold startBody
  extract_lets s₁
  have h₁ : s.Follows s₁ := .of_eq rfl rfl
  exact (h₁.trans (follows_note (by decide))).trans (follows_enter hp)

theorem follows_prepareNotFound {site : Site} {s : Session S}
    (hp : s.connection.phase = .sendingNotFound) : s.Follows (s.prepareNotFound site) := by
  have he : Edge s.connection.phase .sendingData := hp ▸ .announcePage
  rw [prepareNotFound]
  split
  · exact .trans (.of_eq rfl rfl) (follows_startBody he)
  · rename_i e _
    have h : s.Follows (s.update fun c => { c with status := .notFound, file := none }) :=
      .of_eq rfl rfl
    exact (h.trans (follows_note (by decide))).trans (follows_startBody he)

theorem follows_prepareHeader {site : Site} {s : Session S}
    (hp : s.connection.phase = .sendingHeader) : s.Follows (s.prepareHeader site).2 := by
  rw [prepareHeader]
  split
  · exact .of_eq rfl rfl
  · exact .trans (.of_eq rfl rfl) (follows_startBody (hp ▸ .announceDocument))

theorem edge_finalPhase (c : Connection) : Edge .sendingData c.finalPhase := by
  rw [Connection.finalPhase]
  split
  · exact .endPage
  · split
    · exact .endEmpty
    · exact .endDocument

theorem follows_complete {s : Session S} (hp : s.connection.phase = .sendingData) :
    s.Follows s.complete := follows_enter (hp ▸ edge_finalPhase _)

section

variable [Sink S] {site : Site} {s : Session S}

theorem follows_sendBody {id : FileId} (hp : s.connection.phase = .sendingData) :
    s.Follows (s.sendBody site id).2 := by
  rw [sendBody]
  dsimp only
  split
  · exact .of_eq rfl rfl
  · exact .trans (.of_eq rfl rfl) (follows_complete hp)
  · exact .of_eq rfl rfl

theorem follows_afterHeader (hp : s.connection.phase = .sendingData) :
    s.Follows (s.afterHeader site).2 := by
  rw [afterHeader]
  split
  · exact follows_complete hp
  split
  · exact follows_complete hp
  split
  · exact follows_sendBody hp
  · exact follows_enter (hp ▸ .turnToChunks)

theorem follows_sendData (hp : s.connection.phase = .sendingData) :
    s.Follows (s.sendData site).2 := by
  rw [sendData]
  dsimp only
  split
  · exact .of_eq rfl rfl
  · exact .of_eq rfl rfl
  · exact .trans (.of_eq rfl rfl) (follows_afterHeader hp)

omit [Sink S] in
theorem follows_afterRequest {R W : Type} {carry : R → W → Verdict W} {e : Engine} {w : W}
    {transfer : R} {n : Nat} : s.Follows (s.afterRequest (e.runOne carry w transfer n)) := by
  refine .of_notes rfl ?_ rfl
  -- The engine notes requests that it takes and completions that it drops, but no moves.
  cases h : carry transfer w with
  | refused error => simp [Engine.runOne, Engine.submit, Engine.accept, h]
  | finished r w =>
    simp [Engine.runOne, Engine.submit, Engine.accept, h, Engine.submittedNote, Engine.droppedNote,
      moveText]

omit [Sink S] in
theorem follows_countChunk {n : Nat} (hp : s.connection.phase = .movingChunks) :
    s.Follows (s.countChunk n) := by
  unfold countChunk
  extract_lets s₁ s₂
  have h : s.Follows s₂ := .trans (.of_eq rfl rfl) (follows_note (by decide))
  split
  · have hp₂ : s₂.connection.phase = .movingChunks := hp
    exact h.trans (follows_enter (hp₂ ▸ .endChunks))
  · exact h

theorem follows_writeChunk {n : Nat} (hp : s.connection.phase = .movingChunks) :
    s.Follows (s.writeChunk n).2 := by
  have h : s.Follows { s.afterRequest (s.engine.writeFrom s.socket (s.connection.chunk.toBytes.take n)) with
      socket := (s.engine.writeFrom s.socket (s.connection.chunk.toBytes.take n)).world } :=
    follows_afterRequest.trans (.of_eq rfl rfl)
  rw [writeChunk]
  split
  · exact h
  split
  · exact h.trans (follows_countChunk hp)
  · exact h

/-- The chunks of a body come from a file; without one there would be an edge that is
    not there. -/
theorem follows_sendChunk (hp : s.connection.phase = .movingChunks)
    (hfile : s.connection.file.isSome) : s.Follows (s.sendChunk site).2 := by
  rw [sendChunk]
  split
  · rename_i hnone
    simp [hnone] at hfile
  rename_i id hid
  have h : s.Follows (s.afterRequest (s.engine.readAt site.tree
      ⟨id, s.connection.body.offset, min site.settings.chunkSize s.connection.body.remaining⟩
      (s.connection.chunk.widen (min site.settings.chunkSize s.connection.body.remaining)))) :=
    follows_afterRequest
  dsimp only
  split
  · exact h.trans (.of_eq rfl rfl)
  split
  · exact (h.trans (follows_update rfl)).trans (follows_writeChunk hp)
  · exact h.trans (follows_update rfl)

theorem follows_writable (hc : s.connection.InOrder) : s.Follows (s.writable site).2 := by
  rw [writable]
  split
  · exact .of_eq rfl rfl
  · exact .of_eq rfl rfl
  · rename_i hp
    exact follows_processRequest hp
  · rename_i hp
    show s.Follows (s.prepareNotFound site)
    exact follows_prepareNotFound hp
  · rename_i hp
    exact follows_prepareHeader hp
  · rename_i hp
    exact follows_sendData hp
  · rename_i hp
    rw [Connection.InOrder, hp] at hc
    exact follows_sendChunk hp hc.2.2.2.1
  all_goals exact .of_eq rfl rfl

end

/-- The notes of a call tell the way that the connection went. -/
theorem follows_handle [Socket S] (site : Site) (signal : Signal) {s : Session S}
    (hc : s.connection.InOrder) : s.Follows (s.handle site signal).2 := by
  cases signal with
  | readable hangup => exact follows_readable.trans (follows_finish _)
  | writable => exact (follows_writable hc).trans (follows_finish _)

end Session

end FileServer
