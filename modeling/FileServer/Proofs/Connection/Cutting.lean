import FileServer.Proofs.Connection.Countdown
import FileServer.Proofs.Connection.Received
import FileServer.Proofs.Http.Head

/-!
# One stream, cut in two ways

How a stream of bytes is cut up on its way decides one thing about the answer: how much of
the stream had been received when the request was there. Two connections that a stream comes
in through have the same answer if that was equally much (`World.Comes.answers_alike`). It
always is where nothing follows a blank line; and where neither of them finds a document, the
answer is the same anyhow.

What makes the difference is bytes behind a head. Received with it, they make it no request
(`Site.document?_append`); later they are not looked at (`Portioned.late_byte_ignored`).
-/

namespace FileServer

variable {S : Type}

/-- The stream that comes in takes nothing away from what a socket takes. -/
theorem TakesAll.fed [Sink S] (h : TakesAll S) : TakesAll (Fed S) where
  send s := h.send s.inner
  fault s := h.fault s.inner

/-! ### Requests and what follows them -/

namespace Site

variable {site : Site} {request request' : Bytes}

/-- What names a document names none with more bytes behind it. -/
theorem document?_append (h : site.document? request ≠ none) {more : Bytes} (hmore : more ≠ []) :
    site.document? (request ++ more) = none := by
  rw [document?] at h ⊢
  split at h
  · exact absurd rfl h
  rename_i head n hread
  split at h
  · rename_i hn
    have hlen : n ≠ (request ++ more).length := by
      have := List.length_pos_of_ne_nil hmore
      rw [List.length_append]
      omega
    rw [RequestHead.read_append hread more]
    exact if_neg fun hn' => hlen hn'.1
  · exact absurd rfl h

/-- Of two requests one of which begins with the other, at most one names a document. -/
theorem document?_of_prefix (h : request <+: request') (hne : request ≠ request') :
    site.document? request = none ∨ site.document? request' = none := by
  obtain ⟨more, rfl⟩ := h
  have hmore : more ≠ [] := fun hnil => hne (by rw [hnil, List.append_nil])
  exact or_iff_not_imp_left.2 fun hdoc => document?_append hdoc hmore

/-- Where files have contents, the answer tells whether there is a document. -/
theorem status_answer_eq_notFound_iff (ht : site.tree.Sound) :
    (site.answer request).status = .notFound ↔ site.document? request = none := by
  refine ⟨fun h => ?_, fun h => by rw [answer_of_no_document h]⟩
  cases hid : site.document? request with
  | none => rfl
  | some id =>
    obtain ⟨content, hcontent⟩ := exists_content_of_document ht hid
    rw [answer_of_document hid hcontent] at h
    cases h

/-- What goes out begins with the header. -/
theorem exists_delivered_eq (site : Site) (request : Bytes) :
    ∃ rest, site.delivered request = (site.answer request).header.toBytes ++ rest := by
  rw [delivered]
  split
  · exact ⟨_, rfl⟩
  · exact ⟨[], (List.append_nil _).symm⟩

/-- All of the not-found page goes out. -/
theorem delivered_of_no_document (h : site.document? request = none) :
    site.delivered request = (site.answer request).toBytes :=
  if_pos (movable_of_not_isDynamic (isDynamic_of_no_document h))

end Site

/-- The first line of what goes out tells the status. -/
theorem Answer.status_eq_of_header_append_eq {a a' : Answer} {rest rest' : Bytes}
    (h : a.header.toBytes ++ rest = a'.header.toBytes ++ rest') : a.status = a'.status := by
  have hok : Bytes.ofNat Status.ok.code = [50, 48, 48] := by decide
  have hnotFound : Bytes.ofNat Status.notFound.code = [52, 48, 52] := by decide
  simp only [header, ResponseHeader.toBytes, List.append_assoc, List.append_cancel_left_eq] at h
  rcases ha : a.status <;> rcases ha' : a'.status
  · rfl
  · rw [ha, ha', hok, hnotFound] at h
    simp at h
  · rw [ha, ha', hok, hnotFound] at h
    simp at h
  · rfl

/-- So what goes out tells it. -/
theorem Site.status_eq_of_delivered_eq {site : Site} {request request' : Bytes}
    (h : site.delivered request = site.delivered request') :
    (site.answer request).status = (site.answer request').status := by
  obtain ⟨rest, hrest⟩ := site.exists_delivered_eq request
  obtain ⟨rest', hrest'⟩ := site.exists_delivered_eq request'
  exact Answer.status_eq_of_header_append_eq (hrest.symm.trans (h.trans hrest'))

/-! ### The path that is noted -/

/-- The path that is asked for, if what was received is a head and nothing else. -/
def RequestHead.path? (request : Bytes) : Option String :=
  match read request with
  | .error _ => none
  | .ok (head, n) => if n = request.length then some head.path else none

theorem Phase.not_rank_le_of_isAnnounced {p : Phase} (h : p.isAnnounced) : ¬p.rank ≤ 2 := by
  cases p <;> first | decide | cases h

namespace Connection

variable {site : Site} {quiet : Prop} {next : Next} {w : Bytes} {c c' : Connection}

/-- The path is noted when the request is looked at. -/
def Told (c : Connection) : Prop :=
  c.path = if c.phase.rank ≤ 2 then none else RequestHead.path? c.received

theorem Intake.told (h : Intake c next c') (hc : c.Told) : c'.Told := by
  cases h with
  | receives _ hp | completes _ hp =>
    rw [Told, if_pos (by rcases hp with hp | hp <;> rw [hp] <;> decide)] at hc
    exact hc
  | ignores => exact hc

theorem Output.told (h : Output site quiet c next w c') (hp : c.phase ≠ .requestReceived)
    (hc : c.Told) : c'.Told := by
  have hfinal : ¬c.finalPhase.rank ≤ 2 := fun hle =>
    absurd (Nat.lt_of_lt_of_le (Session.edge_finalPhase c).rank_lt hle) (by decide)
  cases h with
  | early | late | loses => exact hc
  | finds hp' | misses _ _ hp' => exact absurd hp' hp
  | announcesPage hp' | announcesNothing hp' | announcesDocument hp' | announcesNoDocument hp'
  | turnsToChunks hp' =>
    rw [Told, hp'] at hc
    exact hc
  | sendsHeaderPart | sendsBodyPart | losesChunk => exact hc
  | sendsHeader hp' | sendsBody hp' | movesNothing hp' =>
    rw [Told, hp'] at hc
    exact hc.trans (if_neg hfinal).symm
  | movesChunk chunk hp' =>
    rw [Told, hp'] at hc
    refine hc.trans (if_neg ?_).symm
    simp only [passChunk]
    split
    · decide
    · rw [hp']
      decide

/-- A request that was looked at is a request no more. -/
theorem Output.looks_at (h : Output site quiet c next w c') (hp : c.phase = .requestReceived) :
    ¬c'.phase.rank ≤ 2 ∧ c'.received = c.received := by
  cases h with
  | finds | misses => exact ⟨(by decide : ¬3 ≤ 2), rfl⟩
  | early h => rcases h with h | h <;> cases hp.symm.trans h
  | late h =>
    rw [hp] at h
    cases h
  | movesChunk _ h | losesChunk _ h => cases hp.symm.trans h
  | _ h => cases hp.symm.trans h

end Connection

namespace Session

open Connection

variable {site : Site} {s : Session S}

/-- To look at the request is to note the path. -/
theorem path_processRequest (h : s.connection.path = none) :
    (s.processRequest site).connection.path = RequestHead.path? s.connection.received := by
  rw [processRequest, RequestHead.path?]
  cases hread : RequestHead.read s.connection.received with
  | error e => exact h
  | ok read =>
    rcases read with ⟨head, n⟩
    dsimp only
    split
    · rw [serve]
      split
      split <;> rfl
    · exact h

theorem told_handle [Socket S] (site : Site) (signal : Signal) (hs : s.connection.Told) :
    (s.handle site signal).2.connection.Told := by
  cases signal with
  | readable hangup => exact (intake_readable site hangup s).told hs
  | writable =>
    obtain ⟨w, ho⟩ := output_onWritable site s
    by_cases hp : s.connection.phase = .requestReceived
    · rw [Connection.Told, hp] at hs
      obtain ⟨hrank, hreceived⟩ := ho.looks_at hp
      rw [handle, Connection.Told, if_neg hrank, hreceived, onWritable, finish_connection,
        writable, hp]
      exact path_processRequest hs
    · exact ho.told hp hs

end Session

/-! ### Where the request is there -/

namespace World

/-- A stream comes in through the socket, and the settings and the files stay as they are.
    Nobody else puts bytes on the socket, and no completion of another request waits in the
    engine, where no handler leaves one (`Session.waiting_handle`). -/
def steady (S : Type) (site : Site) (stream : Bytes) : World (Recorded (Fed S)) where
  begins b := b.sent = [] ∧ b.inner.rest = stream
  drifts b b' := b'.sent = b.sent ∧ b'.inner.rest = b.inner.rest
  engines e := e.waiting = []
  sites site' := site' = site

variable [Socket S] {site : Site} {stream : Bytes} {next : Next} {s : Session (Recorded (Fed S))}

/-- The stream is nothing that the answer depends on. -/
theorem Reached.still_of_steady (h : (steady S site stream).Reached (next, s)) :
    (still (Fed S) site).Reached (next, s) := by
  refine h.induction (motive := fun next s => (still (Fed S) site).Reached (next, s)) ?_ ?_
  · intro token peer socket engine notes hb
    exact .new hb.1
  · intro next s s' site' signal _ hn he hs ih
    exact ih.call signal hn ⟨he.connection, he.socket.1, he.engine⟩ hs

/-- What is on the socket is nothing that receiving depends on. -/
theorem Reached.fed_of_steady (h : (steady S site stream).Reached (next, s)) :
    (fed S stream site.settings.maxRequestSize).Reached (next, s.forget) := by
  refine h.induction (motive := fun next s =>
    (fed S stream site.settings.maxRequestSize).Reached (next, s.forget)) ?_ ?_
  · intro token peer socket engine notes hb
    exact .new hb.2
  · intro next s s' site' signal _ hn he hs ih
    obtain rfl : site' = site := hs
    have hforget : (fed S stream site'.settings.maxRequestSize).Elapses s.forget s'.forget :=
      ⟨he.connection, he.socket.2, trivial⟩
    have hcall := ih.call signal hn hforget rfl
    rwa [Session.handle_forget] at hcall

/-- No completion waits after the first call, and the path is noted when it is time. -/
theorem Reached.quiet_told (h : (steady S site stream).Reached (next, s)) :
    (s.connection.phase = .initial ∨ s.engine.waiting = []) ∧ s.connection.Told := by
  refine h.induction (motive := fun _ s =>
    (s.connection.phase = .initial ∨ s.engine.waiting = []) ∧ s.connection.Told) ?_ ?_
  · intro token peer socket engine notes hb
    exact ⟨.inl rfl, rfl⟩
  · intro next s s' site' signal _ hn he hs ih
    exact ⟨.inr (Session.waiting_handle site' signal he.engine),
      Session.told_handle site' signal (he.connection ▸ ih.2)⟩

/-- A connection that a stream comes in through has its request just now. -/
structure Comes (site : Site) (stream : Bytes) (s : Session (Recorded (Fed S))) : Prop where
  reached : (steady S site stream).Reached (.write, s)
  phase : s.connection.phase = .requestReceived

namespace Comes

variable (h : Comes site stream s)

include h

theorem not_isEarly : ¬s.connection.isEarly := by
  rintro (hp | hp) <;> cases h.phase.symm.trans hp

theorem inStream : s.forget.InStream stream site.settings.maxRequestSize :=
  h.reached.fed_of_steady.inStream

/-- What was received is a beginning of the stream. -/
theorem received_prefix : s.connection.received <+: stream := ⟨_, h.inStream.stream_eq⟩

/-- Nothing of a response is there. -/
theorem asked : s.Asked := by
  have hanswering := h.reached.still_of_steady.answering
  refine ⟨h.phase, hanswering.inOrder, hanswering.toOnWire.sent_eq_nil ?_⟩
  rw [h.phase]
  decide

/-- Writability alone brings the answer to what was received, as far as it goes out, and notes
    the path. -/
theorem exists_end (hcheck : site.settings.check = .ok ()) (htree : site.tree.Sound)
    (hs : TakesAll S) : ∃ t, Session.EndsIn site (.write, s) t ∧
      t.socket.sent = site.delivered s.connection.received ∧
      t.connection.path = RequestHead.path? s.connection.received := by
  obtain ⟨hquiet, htold⟩ := h.reached.quiet_told
  have hwaiting : s.engine.waiting = [] :=
    hquiet.resolve_left fun hp => h.not_isEarly (.inl hp)
  obtain ⟨t, hend, hannounced, hsent⟩ := h.asked.exists_endsIn hs.fed htree
    (Settings.valid_of_check hcheck).chunkSize hwaiting
  refine ⟨t, hend, hsent, ?_⟩
  obtain ⟨htold', -, hreceived⟩ := hend.preserves (motive := fun t => t.connection.Told ∧
      ¬t.connection.isEarly ∧ t.connection.received = s.connection.received)
    (fun t ht => ⟨Session.told_handle site .writable ht.1,
      (Session.late_handle site .writable ht.2.1).1,
      (Session.late_handle site .writable ht.2.1).2.trans ht.2.2⟩)
    ⟨htold, h.not_isEarly, rfl⟩
  rw [← hreceived, htold', if_neg (Phase.not_rank_le_of_isAnnounced hannounced)]

end Comes

/-! ### Two runs -/

variable {S' : Type} [Socket S'] {s' : Session (Recorded (Fed S'))}

/-- Two connections that received equally much of a stream received the same. -/
theorem Comes.received_eq (h : Comes site stream s) (h' : Comes site stream s')
    (hlen : s.connection.received.length = s'.connection.received.length) :
    s.connection.received = s'.connection.received :=
  (List.prefix_of_prefix_length_le h.received_prefix h'.received_prefix
    (Nat.le_of_eq hlen)).eq_of_length hlen

/-- At most one of two connections that received differently much finds a document. -/
theorem Comes.one_document (h : Comes site stream s) (h' : Comes site stream s') :
    s.connection.received = s'.connection.received ∨
      site.document? s.connection.received = none ∨
      site.document? s'.connection.received = none := by
  by_cases heq : s.connection.received = s'.connection.received
  · exact .inl heq
  · right
    rcases List.prefix_or_prefix_of_prefix h.received_prefix h'.received_prefix with hp | hp
    · exact Site.document?_of_prefix hp heq
    · exact (Site.document?_of_prefix hp (Ne.symm heq)).symm

/-- What goes out is the same if the same was received, or if no document is found. -/
theorem Comes.delivered_eq_iff (htree : site.tree.Sound) (h : Comes site stream s)
    (h' : Comes site stream s') :
    site.delivered s.connection.received = site.delivered s'.connection.received ↔
      s.connection.received = s'.connection.received ∨
        site.document? s.connection.received = none ∧
          site.document? s'.connection.received = none := by
  constructor
  · intro heq
    have hstatus := Site.status_eq_of_delivered_eq heq
    -- The status tells whether there is a document, and at most one of them has one.
    have hnone : site.document? s.connection.received = none ↔
        site.document? s'.connection.received = none := by
      rw [← Site.status_answer_eq_notFound_iff htree, hstatus,
        Site.status_answer_eq_notFound_iff htree]
    rcases h.one_document h' with hreceived | hdoc | hdoc
    · exact .inl hreceived
    · exact .inr ⟨hdoc, hnone.1 hdoc⟩
    · exact .inr ⟨hnone.2 hdoc, hdoc⟩
  · rintro (hreceived | ⟨hdoc, hdoc'⟩)
    · rw [hreceived]
    · rw [Site.delivered_of_no_document hdoc, Site.delivered_of_no_document hdoc',
        Site.answer_of_no_document hdoc, Site.answer_of_no_document hdoc']

/-- In what a connection can receive of the stream, nothing stands behind a blank line. -/
def Bare (site : Site) (stream : Bytes) : Prop :=
  ∀ before after, stream.take site.settings.maxRequestSize = before ++ blankLine ++ after →
    after = []

/-- Where nothing follows a blank line, as much as possible was received. -/
theorem Comes.received_eq_take (h : Comes site stream s) (hbare : Bare site stream) :
    s.connection.received = stream.take site.settings.maxRequestSize := by
  have hin := h.inStream
  have hpre : s.connection.received <+: stream.take site.settings.maxRequestSize :=
    List.prefix_take_iff.2 ⟨h.received_prefix, hin.length_le⟩
  rcases (hin.complete h.not_isEarly).1 with ⟨before, after, hblank⟩ | hfull
  · obtain ⟨rest, hrest⟩ := hpre
    rw [Session.forget_connection] at hblank
    have := hbare before (after ++ rest) (by rw [← hrest, ← hblank, List.append_assoc])
    rw [← hrest, (List.append_eq_nil_iff.1 this).2, List.append_nil]
  · refine hpre.eq_of_length ?_
    refine Nat.le_antisymm hpre.length_le ?_
    rw [List.length_take]
    exact Nat.le_trans (Nat.min_le_left _ _) (Nat.le_of_eq hfull.symm)

/-- What two connections that a stream comes in through have in common: their requests were
    there as `s` and `s'`, and they were answered to the end as `t` and `t'`. -/
structure SameAnswer (site : Site) (stream : Bytes) (s t : Session (Recorded (Fed S)))
    (s' t' : Session (Recorded (Fed S'))) : Prop where
  /-- Each has what goes out of the answer to what it had received. -/
  sent_eq : t.socket.sent = site.delivered s.connection.received
  sent_eq' : t'.socket.sent = site.delivered s'.connection.received
  /-- They had received the same just if it was equally much. -/
  received_iff : s.connection.received = s'.connection.received ↔
    s.connection.received.length = s'.connection.received.length
  /-- Where nothing follows a blank line, they had. -/
  of_bare : Bare site stream → s.connection.received = s'.connection.received
  /-- The answers are the same just if they had, or if neither of them finds a document. -/
  sent_iff : t.socket.sent = t'.socket.sent ↔
    s.connection.received = s'.connection.received ∨
      site.document? s.connection.received = none ∧ site.document? s'.connection.received = none
  /-- If they had not, at most one of them finds a document. -/
  one_document : s.connection.received = s'.connection.received ∨
    site.document? s.connection.received = none ∨ site.document? s'.connection.received = none
  /-- The path is noted that was asked for. -/
  path_eq : s.connection.received = s'.connection.received →
    t.connection.path = t'.connection.path

/-- Whatever way a stream is cut in, the connection that it comes in through is answered to
    the end; and two that it comes in through have the same answer, if they had received
    equally much of it when the request was there. -/
theorem Comes.answers_alike (hcheck : site.settings.check = .ok ()) (htree : site.tree.Sound)
    (hs : TakesAll S) (hs' : TakesAll S') (h : Comes site stream s) (h' : Comes site stream s') :
    ∃ t t', Session.EndsIn site (.write, s) t ∧ Session.EndsIn site (.write, s') t' ∧
      SameAnswer site stream s t s' t' := by
  obtain ⟨t, hend, hsent, hpath⟩ := h.exists_end hcheck htree hs
  obtain ⟨t', hend', hsent', hpath'⟩ := h'.exists_end hcheck htree hs'
  refine ⟨t, t', hend, hend', hsent, hsent', ⟨fun heq => by rw [heq], h.received_eq h'⟩, ?_, ?_,
    h.one_document h', ?_⟩
  · intro hbare
    rw [h.received_eq_take hbare, h'.received_eq_take hbare]
  · rw [hsent, hsent']
    exact h.delivered_eq_iff htree h'
  · intro hreceived
    rw [hpath, hpath', hreceived]

end World

/-! ### A request with a byte behind it -/

namespace Portioned

/-- A request for a document, and a byte. -/
def stream : Bytes := Escaped.request ++ [120]

/-- The stream is offered in portions. -/
def offered (portions : List Nat) : Session (Recorded (Fed Portioned)) :=
  ⟨{ token := 1, peer := "10.0.0.1:4000" }, ⟨⟨⟨portions⟩, stream, 0⟩, []⟩, {}, []⟩

/-- The socket can be read. -/
def arrived (portions : List Nat) : Next × Session (Recorded (Fed Portioned)) :=
  (offered portions).handle Escaped.site (.readable false)

/-- It still can. -/
def heard (portions : List Nat) : Next × Session (Recorded (Fed Portioned)) :=
  (arrived portions).2.handle Escaped.site (.readable false)

/-- The byte comes behind the request, in time but not in the same read. -/
theorem arrived_behind : arrived [41, 1] = (.write, (((offered [41, 1]).enter .receiving).append
    ⟨⟨⟨[1]⟩, [120], 1⟩, []⟩ Escaped.request).enter .requestReceived) := by
  show Session.finish (Session.receive 8192 ((offered [41, 1]).enter .receiving)) = _
  rw [Session.receive]
  rfl

/-- It is not read then. -/
theorem heard_behind : heard [41, 1] = arrived [41, 1] := by
  rw [heard, arrived_behind]
  rfl

/-- The byte comes with the request. -/
theorem arrived_together : arrived [42] = (.write, (((offered [42]).enter .receiving).append
    ⟨⟨⟨[]⟩, [], 1⟩, []⟩ stream).enter .requestReceived) := by
  show Session.finish (Session.receive 8192 ((offered [42]).enter .receiving)) = _
  rw [Session.receive]
  rfl

/-- The request comes in two portions. -/
theorem arrived_parted : arrived [10, 31] = (.write, ((((offered [10, 31]).enter .receiving).append
    ⟨⟨⟨[31]⟩, stream.drop 10, 1⟩, []⟩ (stream.take 10)).append
      ⟨⟨⟨[]⟩, [120], 2⟩, []⟩ (Escaped.request.drop 10)).enter .requestReceived) := by
  show Session.finish (Session.receive 8192 ((offered [10, 31]).enter .receiving)) = _
  rw [Session.receive]
  -- The first read brings no blank line.
  show Session.finish (Session.receive 8192 (Session.append _ _ (stream.take 10))) = _
  rw [Session.receive]
  rfl

theorem comes_arrived {portions : List Nat} (h : (arrived portions).1 = .write)
    (hp : (arrived portions).2.connection.phase = .requestReceived) :
    World.Comes Escaped.site stream (arrived portions).2 := by
  have hnew : (World.steady Portioned Escaped.site stream).Reached (.read, offered portions) :=
    .new ⟨rfl, rfl⟩
  have hcall : (World.steady Portioned Escaped.site stream).Reached
      ((arrived portions).1, (arrived portions).2) :=
    hnew.call (.readable false) (by decide) ⟨rfl, ⟨rfl, rfl⟩, rfl⟩ rfl
  exact ⟨h ▸ hcall, hp⟩

theorem comes_heard : World.Comes Escaped.site stream (heard [41, 1]).2 := by
  rw [heard_behind]
  exact comes_arrived (by rw [arrived_behind]) (by rw [arrived_behind]; rfl)

theorem comes_together : World.Comes Escaped.site stream (arrived [42]).2 :=
  comes_arrived (by rw [arrived_together]) (by rw [arrived_together]; rfl)

theorem comes_parted : World.Comes Escaped.site stream (arrived [10, 31]).2 :=
  comes_arrived (by rw [arrived_parted]) (by rw [arrived_parted]; rfl)

/-- A request that comes in two portions is answered as one that comes in one, though there
    is a byte behind it. -/
theorem answers_alike_parted : World.Comes Escaped.site stream (heard [41, 1]).2 ∧
    World.Comes Escaped.site stream (arrived [10, 31]).2 ∧
    ∃ t t', Session.EndsIn Escaped.site (.write, (heard [41, 1]).2) t ∧
      Session.EndsIn Escaped.site (.write, (arrived [10, 31]).2) t' ∧
        t.socket.sent = t'.socket.sent := by
  obtain ⟨t, t', hend, hend', hsame⟩ := comes_heard.answers_alike Settings.check_default Escaped.sound_site
    takesAll takesAll comes_parted
  refine ⟨comes_heard, comes_parted, t, t', hend, hend',
    hsame.sent_iff.2 (.inl (hsame.received_iff.2 ?_))⟩
  rw [heard_behind, arrived_behind, arrived_parted]
  rfl

/-- A byte behind a request changes the answer if it comes with it, and not if it comes in
    time but in a read of its own: it is part of what was received in the one case only. -/
theorem late_byte_ignored : Escaped.site.settings.check = .ok () ∧ Escaped.site.tree.Sound ∧
    TakesAll Portioned ∧ World.Comes Escaped.site stream (heard [41, 1]).2 ∧
    World.Comes Escaped.site stream (arrived [42]).2 ∧
    ∃ t t', Session.EndsIn Escaped.site (.write, (heard [41, 1]).2) t ∧
      Session.EndsIn Escaped.site (.write, (arrived [42]).2) t' ∧
        t.socket.sent ≠ t'.socket.sent := by
  obtain ⟨t, hend, hsent, -⟩ :=
    comes_heard.exists_end Settings.check_default Escaped.sound_site takesAll
  obtain ⟨t', hend', hsent', -⟩ :=
    comes_together.exists_end Settings.check_default Escaped.sound_site takesAll
  refine ⟨Settings.check_default, Escaped.sound_site, takesAll, comes_heard, comes_together, t, t', hend,
    hend', fun heq => ?_⟩
  rw [hsent, hsent'] at heq
  have hstatus := Site.status_eq_of_delivered_eq heq
  -- The request names a document, and with the byte behind it, it names none.
  have hdoc : Escaped.site.document? Escaped.request ≠ none := by simp [Escaped.document?_site]
  have hnone : Escaped.site.document? stream = none := Site.document?_append hdoc (by decide)
  rw [heard_behind, arrived_behind, arrived_together] at hstatus
  exact hdoc ((Site.status_answer_eq_notFound_iff Escaped.sound_site).1
    (hstatus.trans ((Site.status_answer_eq_notFound_iff Escaped.sound_site).2 hnone)))

end Portioned

end FileServer
