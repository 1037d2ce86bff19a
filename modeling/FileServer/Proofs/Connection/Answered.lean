import FileServer.Proofs.Connection.Length
import FileServer.Proofs.Connection.Request

/-!
# Every run gives the answer

A connection answers as a server would that has the whole request at once and sends the
whole response at once: what is on the socket is at every point of a run a beginning of
that answer, and all of it in the final phases and in no others
(`World.Reached.answers`). How the request is cut up, which handlers are called, and what
the socket takes, refuses or lets fail decides only how far the run comes.

What a connection holds of the answer in each phase is `Connection.Faithful`.
-/

namespace FileServer

variable {S : Type}

/-- The settings and the files stay as they are. Nobody else puts bytes on the socket, and
    no completion of another request waits in the engine, where no handler leaves one
    (`Session.waiting_handle`). -/
def World.still (S : Type) (site : Site) : World (Recorded S) where
  begins b := b.sent = []
  drifts b b' := b'.sent = b.sent
  engines e := e.waiting = []
  sites site' := site' = site

namespace Connection

variable {site : Site} {quiet : Prop} {next : Next} {w : Bytes} {c c' : Connection}

/-- What a connection holds goes with the answer to what it received. -/
structure Faithful (site : Site) (c : Connection) : Prop where
  refuses : c.phase = .sendingNotFound → site.document? c.received = none
  serves : c.phase = .sendingHeader → site.document? c.received = c.file
  status : c.phase.isAnnounced → c.status = (site.answer c.received).status
  length : c.phase.isAnnounced → c.bodyLength = (site.answer c.received).body.length
  backing : c.phase.isAnnounced → c.backing site = (site.answer c.received).body

/-- In a phase in which nothing was decided, nothing is held of the answer. -/
theorem Faithful.of_undecided (h : c.phase = .initial ∨ c.phase = .receiving ∨
    c.phase = .requestReceived) : c.Faithful site := by
  constructor <;> rcases h with h | h | h <;> simp [h, Phase.isAnnounced]

/-- What is held of the answer is kept where the announced response is. -/
theorem Faithful.keep (h : c.Faithful site) (hp : c.phase.isAnnounced)
    (hp' : c'.phase.isAnnounced) (hreceived : c'.received = c.received)
    (hstatus : c'.status = c.status) (hlength : c'.bodyLength = c.bodyLength)
    (hfile : c'.file = c.file) : c'.Faithful site where
  refuses hn := by simp [hn, Phase.isAnnounced] at hp'
  serves hn := by simp [hn, Phase.isAnnounced] at hp'
  status _ := by rw [hstatus, hreceived, h.status hp]
  length _ := by rw [hlength, hreceived, h.length hp]
  backing _ := by rw [Connection.backing, hfile, hreceived, ← h.backing hp, Connection.backing]

/-- A response is announced that is the answer. -/
theorem Faithful.announce {header : ResponseHeader}
    (h : site.answer c.received = ⟨header.status, c.backing site⟩)
    (hs : c.status = header.status) (hlen : (c.backing site).length = header.length) :
    (c.announce header).Faithful site where
  refuses hn := by cases hn
  serves hn := by cases hn
  status _ := by
    show c.status = (site.answer c.received).status
    rw [h, hs]
  length _ := by
    show header.length = (site.answer c.received).body.length
    rw [h, hlen]
  backing _ := by
    show c.backing site = (site.answer c.received).body
    rw [h]

/-- Readability keeps what is held of the answer. -/
theorem Intake.faithful (h : Intake c next c') (hf : c.Faithful site) : c'.Faithful site := by
  cases h with
  | receives => exact .of_undecided (.inr (.inl rfl))
  | completes => exact .of_undecided (.inr (.inr rfl))
  | ignores => exact hf

/-- Writability keeps what is held of the answer. -/
theorem Output.faithful (h : Output site quiet c next w c') (hc : c.InOrder)
    (hf : c.Faithful site) : c'.Faithful site := by
  cases h with
  | early | late | loses => exact hf
  | finds hp hread hres hfile hid =>
    -- The document that is found is the one of the request.
    refine ⟨fun hn => ?_, fun _ => ?_, ?_, ?_, ?_⟩
    · cases hn
    · exact Site.document?_eq_some hread hres hfile hid
    all_goals exact fun hn => by cases hn
  | misses resource path hp hnone =>
    refine ⟨fun _ => hnone, fun hn => ?_, ?_, ?_, ?_⟩
    · cases hn
    all_goals exact fun hn => by cases hn
  | announcesPage hp hpage =>
    -- What refuses the request is answered by the page, as it could be opened.
    obtain ⟨hcontent, hlen⟩ := Site.page_of_openPage hpage
    refine .announce ?_ rfl hlen
    rw [Site.answer_of_no_document (hf.refuses hp), hcontent]
    rfl
  | announcesNothing hp hpage =>
    -- The page could not be opened, so there is no body.
    refine .announce ?_ rfl rfl
    rw [Site.answer_of_no_document (hf.refuses hp), Site.page_of_openPage_error hpage]
    rfl
  | announcesDocument hp hfile hcontent =>
    rename_i id content
    have hbacking : c.backing site = content := by
      rw [backing, hfile]
      simp only [Session.contentOf, hcontent, Option.getD_some]
    refine .announce ?_ rfl (congrArg List.length hbacking)
    exact (Site.answer_of_document ((hf.serves hp).trans hfile) hcontent).trans
      (congrArg _ hbacking.symm)
  | announcesNoDocument hp hfile => exact absurd hfile (hc.file_ne_none (.inl hp))
  | sendsHeaderPart hp | sendsBodyPart hp =>
    exact hf.keep (by rw [hp]; rfl) (by simp [passBody, passHeader, hp, Phase.isAnnounced]) rfl
      rfl rfl rfl
  | sendsHeader hp | sendsBody hp =>
    exact hf.keep (by rw [hp]; rfl) (isAnnounced_finalPhase _) rfl rfl rfl rfl
  | turnsToChunks hp => exact hf.keep (by rw [hp]; rfl) rfl rfl rfl rfl rfl
  | movesChunk chunk hp =>
    -- The last chunk ends the answer, the others leave the phase as it is.
    refine hf.keep (by rw [hp]; rfl) ?_ rfl rfl rfl rfl
    simp only [passChunk]
    split
    · rfl
    · rw [hp]
      rfl
  | losesChunk chunk hp =>
    exact hf.keep (by rw [hp]; rfl) (by rw [hp]; rfl) rfl rfl rfl rfl
  | movesNothing hp => exact hf.keep (by rw [hp]; rfl) (isAnnounced_finalPhase _) rfl rfl rfl rfl

/-- Where no header was prepared before, the body has not begun. -/
theorem Output.offset_eq_zero (h : Output site quiet c next w c') (hc : c.Unanswered)
    (hp : ¬c.phase.isAnnounced) : c'.body.offset = 0 := by
  have hzero : c.body.offset = 0 := by rw [hc.body]
  cases h with
  | early | late | loses | finds | misses | losesChunk => exact hzero
  | announcesPage | announcesNothing | announcesDocument | announcesNoDocument => rfl
  | sendsHeaderPart | sendsHeader | turnsToChunks | movesNothing => exact hzero
  | sendsBodyPart h | sendsBody h | movesChunk _ h =>
    rw [h] at hp
    exact absurd rfl hp

end Connection

namespace Session

open Connection

section

variable [Socket S] (site : Site) (signal : Signal) {s : Session S}

theorem offset_handle_eq_zero (hc : s.connection.InOrder) (hp : ¬s.connection.phase.isAnnounced) :
    (s.handle site signal).2.connection.body.offset = 0 := by
  have hu := hc.unanswered hp
  cases signal with
  | readable hangup =>
    obtain ⟨-, hb, -⟩ := (intake_readable site hangup s).frame
    rw [handle, hb, hu.body]
  | writable =>
    obtain ⟨w, ho⟩ := output_onWritable site s
    exact ho.offset_eq_zero hu hp

theorem faithful_handle (hc : s.connection.InOrder) (hf : s.connection.Faithful site) :
    (s.handle site signal).2.connection.Faithful site := by
  cases signal with
  | readable hangup => exact (intake_readable site hangup s).faithful hf
  | writable =>
    obtain ⟨w, ho⟩ := output_onWritable site s
    exact ho.faithful hc hf

end

variable {next : Next} {s : Session (Recorded S)}

/-- What is on the socket is a part of the answer. -/
structure Answering (site : Site) (next : Next) (s : Session (Recorded S)) : Prop
    extends OnWire next s where
  faithful : s.connection.Faithful site
  body : s.connection.phase.isAnnounced →
    s.bodySent <+: (site.answer s.connection.received).body

/-- Before a header is prepared nothing is on the socket. -/
theorem OnWire.sent_eq_nil (h : s.OnWire next) (hp : ¬s.connection.phase.isAnnounced) :
    s.socket.sent = [] := by
  have hu := h.inOrder.unanswered hp
  rcases h.counted with hlen | ⟨-, hm, -⟩
  · rw [hu.body] at hlen
    rw [h.wire.sent_eq, hu.header, List.eq_nil_of_length_eq_zero hlen]
    rfl
  · rw [hm] at hp
    exact absurd rfl hp

/-- Before the end something is still to go out. -/
theorem OnWire.length_lt (h : s.OnWire next) (hp : s.connection.phase.isAnnounced)
    (hf : ¬s.connection.phase.isFinal) :
    s.socket.sent.length < s.connection.header.content.length + s.connection.bodyLength := by
  have hlen := (h.inOrder.announced hp).length
  have hc := h.inOrder
  rw [h.wire.sent_eq, List.length_append, List.length_take]
  rcases h.counted with hcount | ⟨-, -, hcount⟩
  · -- In each phase before the end a part of the header or of the body is left.
    have hleft : 0 < s.connection.header.remaining ∨ 0 < s.connection.body.remaining := by
      rw [InOrder] at hc
      split at hc <;> simp_all [Phase.isAnnounced, Phase.isFinal]
    rw [SendBuffer.remaining] at hleft
    omega
  · omega

/-- In the final phases, and in no others, all of the answer is on the socket; before it is
    a part of it. -/
theorem Answering.sent_prefix {site : Site} (h : s.Answering site next) :
    s.socket.sent <+: (site.answer s.connection.received).toBytes ∧
      (s.socket.sent = (site.answer s.connection.received).toBytes ↔
        s.connection.phase.isFinal) := by
  by_cases hp : s.connection.phase.isAnnounced
  · have hbytes : (site.answer s.connection.received).toBytes =
        s.connection.header.content ++ (site.answer s.connection.received).body := by
      rw [Answer.toBytes, (h.inOrder.announced hp).header, h.faithful.status hp,
        h.faithful.length hp]
    have hpre : s.socket.sent <+: (site.answer s.connection.received).toBytes := by
      rw [hbytes, h.wire.sent_eq]
      -- Either the header is still going out, or all of it is there and the body begins.
      rcases h.wire.behind with hb | hr
      · rw [hb, List.append_nil]
        exact (List.take_prefix _ _).trans (List.prefix_append _ _)
      · rw [List.take_of_length_le (Nat.le_of_sub_eq_zero hr), List.prefix_append_right_inj]
        exact h.body hp
    refine ⟨hpre, fun heq => Decidable.byContradiction fun hf => ?_, fun hf => ?_⟩
    · have hlt := h.length_lt hp hf
      rw [heq, hbytes, List.length_append, h.faithful.length hp] at hlt
      exact Nat.lt_irrefl _ hlt
    · refine hpre.eq_of_length ?_
      have hdone := h.inOrder.complete hf
      rw [hbytes, h.wire.sent_eq, List.take_of_length_le (Nat.le_of_sub_eq_zero hdone.header_out),
        List.length_append, List.length_append, h.toOnWire.honestState.complete hf,
        h.faithful.length hp]
  · have hnil := h.sent_eq_nil hp
    -- Nothing is never all of the answer, since every header has bytes.
    refine ⟨hnil ▸ List.nil_prefix, fun heq => ?_, fun hf => ?_⟩
    · have hpos := ResponseHeader.length_toBytes_pos
        ⟨(site.answer s.connection.received).status,
          (site.answer s.connection.received).body.length⟩
      rw [hnil] at heq
      have := congrArg List.length heq
      rw [Answer.toBytes, List.length_append, List.length_nil] at this
      omega
    · exact absurd (h.inOrder.isAnnounced hf) hp

variable [Socket S] (site : Site) (signal : Signal)

/-- A call adds a part of the answer to what is on the socket. -/
theorem answering_handle (hq : s.engine.waiting = []) (hs : s.Answering site next)
    (hn : next ≠ .close) :
    (s.handle site signal).2.Answering site (s.handle site signal).1 := by
  have hf := faithful_handle site signal hs.inOrder hs.faithful
  refine ⟨onWire_handle site signal hq hs.toOnWire hn, hf, fun hp' => ?_⟩
  obtain ⟨more, -, hbody, hmore, hcount⟩ :=
    bodySent_handle site signal hq hs.toOnWire hn
  by_cases hp : s.connection.phase.isAnnounced
  · -- The header is out or on its way, so the request is there and the file is open.
    have hlate : ¬s.connection.isEarly := by
      rintro (h | h) <;> simp [h, Phase.isAnnounced] at hp
    obtain ⟨rest, hrest⟩ := hs.body hp
    rw [hs.faithful.backing hp, ← hrest, List.drop_left] at hmore
    rw [(late_handle site signal hlate).2, hbody, ← hrest, List.prefix_append_right_inj]
    exact hmore
  · -- The header was prepared just now, so there is no body yet.
    have hzero := offset_handle_eq_zero site signal hs.inOrder hp
    rcases hcount with hcount | hover
    · rw [hzero] at hcount
      rw [List.eq_nil_of_length_eq_zero hcount]
      exact List.nil_prefix
    · rw [hover.phase] at hp
      exact absurd rfl hp

end Session

namespace World

variable [Socket S] {site : Site} {next : Next} {s : Session (Recorded S)}

theorem Reached.answering (h : (still S site).Reached (next, s)) : s.Answering site next := by
  refine h.induction (motive := fun next s => s.Answering site next) ?_ ?_
  · -- A new connection.
    intro token peer socket engine notes hb
    exact ⟨Session.onWire_new hb, .of_undecided (.inl rfl), fun hp => by cases hp⟩
  · -- A call, before which anything but the connection and its socket may have changed.
    intro next s s' site' signal _ hn he hs ih
    obtain rfl : site' = site := hs
    have hwire : s'.OnWire next := ih.toOnWire.congr he.connection he.socket
    refine Session.answering_handle site' signal he.engine ⟨hwire, ?_, ?_⟩ hn
    · rw [he.connection]
      exact ih.faithful
    · rw [Session.bodySent, he.connection, show s'.socket.sent = s.socket.sent from he.socket]
      exact ih.body

/-- Nothing is on the socket before the request is there. Behind the moment at which it
    came, what is on the socket is a beginning of the answer to what was received then,
    and all of the answer just in the final phases. -/
theorem Reached.answers (h : (still S site).Reached (next, s)) :
    (s.connection.isEarly → s.socket.sent = []) ∧
    (¬s.connection.isEarly → ∃ m, (still S site).Reached m ∧
      m.2.connection.phase = .requestReceived ∧ (still S site).Later m (next, s)) ∧
    ∀ m, (still S site).Reached m → m.2.connection.phase = .requestReceived →
      (still S site).Later m (next, s) → m.2.socket.sent = [] ∧
        s.socket.sent <+: (site.answer m.2.connection.received).toBytes ∧
        (s.socket.sent = (site.answer m.2.connection.received).toBytes ↔
          s.connection.phase.isFinal) := by
  refine ⟨fun hearly => ?_, fun hlate => h.exists_request.resolve_left hlate, ?_⟩
  · -- Nothing goes out before a header is prepared.
    refine h.answering.toOnWire.sent_eq_nil ?_
    rcases hearly with hp | hp <;> simp [hp, Phase.isAnnounced]
  · -- What was received is the same since the request was there.
    rintro ⟨next', t⟩ hm hp hl
    have hearly : ¬t.connection.isEarly := by
      rintro (h | h)
      · exact absurd (hp.symm.trans h) (by decide)
      · exact absurd (hp.symm.trans h) (by decide)
    obtain ⟨-, heq⟩ := hl.received_eq hearly
    refine ⟨hm.answering.toOnWire.sent_eq_nil ?_, ?_⟩
    · rw [show t.connection.phase = .requestReceived from hp]
      decide
    rw [← heq]
    exact h.answering.sent_prefix

/-- What is no request is answered by the page. -/
theorem answers_page : ∃ m, (still Duplex (Visit.site Visit.page)).Reached m ∧
    m.2.connection.phase = .requestReceived ∧ Visit.answered.2.socket.sent =
      ((Visit.site Visit.page).answer m.2.connection.received).toBytes := by
  have hannounced : (still Duplex (Visit.site Visit.page)).Reached
      (Visit.announced.1, Visit.announced.2) :=
    Visit.reached_announced rfl (fun _ => rfl) rfl rfl
  have hquiet : Visit.announced.2.engine.waiting = [] := by rw [Visit.announced_engine]
  have h : (still Duplex (Visit.site Visit.page)).Reached (Visit.answered.1, Visit.answered.2) :=
    hannounced.call .writable Visit.announced_next ⟨rfl, rfl, hquiet⟩ rfl
  obtain ⟨-, hexists, hsent⟩ := Reached.answers h
  obtain ⟨m, hm, hp, hl⟩ := hexists (by simp [Connection.isEarly, Visit.answered_phase])
  exact ⟨m, hm, hp, (hsent m hm hp hl).2.2.2 (by rw [Visit.answered_phase]; rfl)⟩

end World

end FileServer
