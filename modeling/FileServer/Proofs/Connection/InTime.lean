import FileServer.Proofs.Connection.Countdown

/-!
# Answers in time

Every call that wants to write on gets on with the answer (`Connection.Advances`), and how many
of them there can be is settled when the request is there.

* Over a socket that takes everything it is three, and one more for each chunk
  (`Session.EndsAfter`), unless a chunk is longer than one request to the system can move: then
  the answer breaks off behind its header (`Session.BreaksAfter`).
* Over a socket that takes something at each call, an answer that is not moved in chunks takes no
  more calls than it has bytes, and two (`Connection.callsAtMost`).

Between the calls the socket may do what it likes. `Session.Asked.answered_in_time` says all of
this of every connection that has its request.
-/

namespace FileServer

variable {S : Type}

/-! ### Sockets that block, but do not fail -/

/-- What is offered to the sockets of a type they take in part, or they put it off. -/
structure Willing (S : Type) [Sink S] : Prop where
  send : ∀ (s : S) (bs : Bytes), bs ≠ [] → (∃ n, (Sink.send s bs).1 = .took (n + 1)) ∨
    (Sink.send s bs).1 = .interrupted ∨ (Sink.send s bs).1 = .wouldBlock
  fault : ∀ s : S, Sink.fault s = none

namespace Willing

variable [Sink S] (h : Willing S)

include h

theorem recorded : Willing (Recorded S) where
  send s := h.send s.inner
  fault s := h.fault s.inner

/-- No offer comes to nothing, and none fails. -/
theorem send_ne {s s' : S} {bs : Bytes} {r : Sending} (hs : Sink.send s bs = (r, s'))
    (hbs : bs ≠ []) : r ≠ .took 0 ∧ ∀ e, r ≠ .failed e := by
  rcases h.send s bs hbs with ⟨n, hn⟩ | hn | hn
  all_goals
    rw [hs] at hn
    dsimp only at hn
    rw [hn]
    simp

/-- A header goes out, or has to wait. -/
theorem flush (b : SendBuffer) (s : S) : ∃ progress, (b.flush s).1 = .ok progress := by
  -- By the answers of the socket: it takes nothing, it takes something, it is interrupted, it
  -- would block, it fails, or nothing is left to offer.
  fun_induction SendBuffer.flush b s with
  | case1 b s hlt s' hs =>
    exact absurd rfl (h.send_ne hs (SendBuffer.rest_ne_nil (Nat.sub_pos_of_lt hlt))).1
  | case2 b s hlt n s' hs ih | case3 b s hlt s' hs ih => exact ih
  | case4 | case6 => exact ⟨_, rfl⟩
  | case5 b s hlt e s' hs =>
    exact absurd rfl ((h.send_ne hs (SendBuffer.rest_ne_nil (Nat.sub_pos_of_lt hlt))).2 e)

/-- A part of a file is carried, or has to wait. -/
theorem step_ne {file : Bytes} {offset count : Nat} {s s' : S} {r : Sending}
    (hs : FileBody.step s file offset count = (r, s')) (hcount : 0 < count)
    (hlen : offset + count ≤ file.length) (hsize : file.length ≤ FileTree.maxSize) :
    r ≠ .took 0 ∧ ∀ e, r ≠ .failed e := by
  rw [FileBody.step_of_held (h.fault s) hcount hlen hsize] at hs
  refine h.send_ne hs (List.ne_nil_of_length_pos ?_)
  rw [FileBody.length_slice]
  omega

/-- So does a body that the file holds. -/
theorem run {file : Bytes} {body : FileBody} (hlen : body.offset + body.remaining ≤ file.length)
    (hsize : file.length ≤ FileTree.maxSize) (s : S) :
    ∃ progress, (FileBody.run file body s).1 = .ok progress := by
  have hlimit : FileTree.maxSize ≤ FileBody.requestLimit := by decide
  have hstep : ∀ {body : FileBody} {s s' : S} {r : Sending}, 0 < body.remaining →
      body.offset + body.remaining ≤ file.length →
      FileBody.step s file body.offset (min body.remaining FileBody.requestLimit) = (r, s') →
        r ≠ .took 0 ∧ ∀ e, r ≠ .failed e := fun hpos hlen hs =>
    h.step_ne hs (by omega) (by omega) hsize
  fun_induction FileBody.run file body s with
  | case1 body s hpos s' hs => exact absurd rfl (hstep hpos hlen hs).1
  | case2 body s hpos n s' hs ih =>
    have hle := FileBody.step_took_le (congrArg Prod.fst hs)
    have hle' : n + 1 ≤ body.remaining := Nat.le_trans hle (Nat.min_le_left _ _)
    exact ih (by dsimp only; omega)
  | case3 body s hpos s' hs ih => exact ih hlen
  | case4 | case6 => exact ⟨_, rfl⟩
  | case5 body s hpos e s' hs => exact absurd rfl ((hstep hpos hlen hs).2 e)

end Willing

/-! ### Calls and bytes -/

namespace Connection

variable {site : Site} {quiet : Prop} {w : Bytes} {c c' : Connection}

/-- The answer has the bytes of the header and of the body. -/
theorem Faithful.length_answer (hf : c.Faithful site) (hc : c.InOrder)
    (hp : c.phase.isAnnounced) :
    (site.answer c.received).toBytes.length = c.header.content.length + c.bodyLength := by
  rw [Answer.toBytes, List.length_append, (hc.announced hp).header, hf.status hp, hf.length hp]

/-- How many calls at most want to write on, where no chunks are moved and each call puts
    something on the socket that has something to put there. -/
def callsAtMost (site : Site) (c : Connection) : Nat :=
  match c.phase with
  | .requestReceived => (site.answer c.received).toBytes.length + 2
  | .sendingNotFound | .sendingHeader => (site.answer c.received).toBytes.length + 1
  | .sendingData => c.left
  | _ => 0

/-- A response that is out takes no more calls. -/
theorem callsAtMost_of_isFinal (hp : c.phase.isFinal) : c.callsAtMost site = 0 := by
  rw [callsAtMost]
  split
  iterate 4 simp_all [Phase.isFinal]
  rfl

/-- A response that was just announced is all left. -/
theorem callsAtMost_announce {header : ResponseHeader} (hf : (c.announce header).Faithful site)
    (hc : (c.announce header).InOrder) :
    (c.announce header).callsAtMost site = (site.answer c.received).toBytes.length :=
  (hf.length_answer hc rfl).symm

/-- Each call is a call less at least. -/
theorem Output.callsAtMost_lt (h : Output site quiet c .write w c') (hc : c.InOrder)
    (hc' : c'.InOrder) (hf' : c'.Faithful site) (hchunk : site.settings.chunkSize ≠ 0)
    (hnone : c.chunksLeft site = 0) (hsends : c.phase = .sendingData → w ≠ []) :
    c'.callsAtMost site < c.callsAtMost site := by
  -- The header or the body goes on: the call put something on the socket.
  by_cases hstays : c.phase = .sendingData ∧ c'.phase = .sendingData
  · obtain ⟨hp, hp'⟩ := hstays
    cases h.advances hc hchunk with
    | forward hrank =>
      rw [hp, hp'] at hrank
      exact absurd hrank (Nat.lt_irrefl _)
    | sends _ _ hsum =>
      have hw := List.length_pos_of_ne_nil (hsends hp)
      rw [callsAtMost, callsAtMost, hp, hp']
      dsimp only
      omega
    | moves hm => cases hp.symm.trans hm
  have hleft : c.phase = .sendingData → 0 < c.callsAtMost site := fun hp => by
    rw [InOrder, hp] at hc
    rw [callsAtMost, hp]
    dsimp only [left]
    have := hc.2.2.1
    omega
  cases h with
  | finds hp | misses _ _ hp =>
    rw [callsAtMost, callsAtMost, hp]
    exact Nat.lt_succ_self _
  | announcesPage hp | announcesNothing hp | announcesDocument hp | announcesNoDocument hp =>
    rw [callsAtMost_announce hf' hc', callsAtMost, hp]
    exact Nat.lt_succ_self _
  | sendsHeader hp | sendsBody hp =>
    rw [callsAtMost_of_isFinal (isFinal_finalPhase c)]
    exact hleft hp
  | sendsHeaderPart hp | sendsBodyPart hp => exact absurd ⟨hp, hp⟩ hstays
  | turnsToChunks hp hfile hrem hd =>
    -- Nothing is moved in chunks, so no call turns to them.
    have hpos := ceilDiv_pos hrem hchunk
    rw [chunksLeft, hp] at hnone
    dsimp only at hnone
    rw [if_neg hd] at hnone
    exact absurd hnone (Nat.ne_of_gt hpos)
  | movesChunk chunk hp => exact absurd hnone (Nat.ne_of_gt (hc.chunksLeft_pos hp hchunk))
  | movesNothing hp hfile => exact absurd hfile (hc.file_ne_none (.inr hp))

end Connection

namespace Session

open Connection

variable [Socket S] {site : Site} {request : Bytes} {s t : Session (Recorded S)}

/-- A call that has something of the header or of the body to put on the socket puts some of
    it there. -/
def PutsSome (site : Site) (s : Session (Recorded S)) : Prop :=
  s.connection.phase = .sendingData →
    s.socket.sent.length < (s.onWritable site).2.socket.sent.length

/-- At most so many calls want to write on, and the next one closes, whatever becomes of the
    socket in between, as long as it takes something at each call. -/
def EndsWithin (site : Site) (request : Bytes) : Nat → Session (Recorded S) → Prop
  | 0, s => ∀ t, (World.still S site).Elapses s t → t.PutsSome site → t.Closes site request
  | count + 1, s => ∀ t, (World.still S site).Elapses s t → t.PutsSome site →
      t.Closes site request ∨
        (t.onWritable site).1 = .write ∧ EndsWithin site request count (t.onWritable site).2

/-! ### Sockets that take something at each call -/

/-- The header goes out or has to wait, and so does a body that goes straight from the file. -/
theorem sendData_of_willing (hs : Willing S) (ht : site.tree.Sound)
    (hp : s.connection.phase = .sendingData) (hc : s.connection.InOrder)
    (hf : s.connection.Faithful site) : (s.sendData site).1 = .ok .write := by
  obtain ⟨progress, hflush⟩ := hs.recorded.flush s.connection.header s.socket
  rcases hheader : s.connection.header.flush s.socket with ⟨result, header, socket⟩
  rw [hheader] at hflush
  dsimp only at hflush
  rw [sendData, hheader, hflush]
  cases progress with
  | blocked =>
    -- The header has to wait.
    rfl
  | done =>
    dsimp only
    -- The header is out, and a body that goes straight from the file is out or has to wait.
    rw [afterHeader]
    split
    · rfl
    rename_i id hid
    split
    · rfl
    split
    · have hlen : s.connection.body.offset + s.connection.body.remaining ≤
          (contentOf site id).length := Nat.le_of_eq
            (offset_add_remaining_eq (by rw [hp]; rfl) hc hf hid)
      obtain ⟨progress, hrun⟩ := hs.recorded.run hlen (ht.length_contentOf_le id) socket
      rw [sendBody]
      simp only [update_connection, update_socket, hrun]
      cases progress <;> rfl
    · rfl

/-- Where no chunks are moved, a socket that does not fail lets each call go on. -/
theorem Underway.write_of_willing (h : s.Underway site request) (hs : Willing S)
    (ht : site.tree.Sound) (hchunk : site.settings.chunkSize ≠ 0)
    (hnone : s.connection.chunksLeft site = 0) (hopen : ¬s.connection.phase.isFinal) :
    (s.onWritable site).1 = .write := by
  rw [onWritable, finish_fst, writable]
  split
  · exact absurd (.inl ‹_›) h.late
  · exact absurd (.inr ‹_›) h.late
  · rfl
  · rfl
  · exact congrArg wish (prepareHeader_fst ht ‹_› h.inOrder h.faithful)
  · exact congrArg wish (sendData_of_willing hs ht ‹_› h.inOrder h.faithful)
  · exact absurd hnone (Nat.ne_of_gt (h.inOrder.chunksLeft_pos ‹_› hchunk))
  all_goals
    rename_i hfinal
    rw [hfinal] at hopen
    exact absurd rfl hopen

/-- Where no chunks are moved, and each call puts something on the socket, there are no more
    calls than bytes, and those before the first byte. -/
theorem Underway.endsWithin (hs : Willing S) (ht : site.tree.Sound)
    (hchunk : site.settings.chunkSize ≠ 0) {count : Nat} (h : s.Underway site request)
    (hnone : s.connection.chunksLeft site = 0)
    (hcount : s.connection.callsAtMost site ≤ count) : EndsWithin site request count s := by
  -- A call that goes on leaves fewer calls, and still no chunks.
  have hcall : ∀ {t : Session (Recorded S)}, t.Underway site request →
      t.engine.waiting = [] → t.connection.chunksLeft site = 0 → t.PutsSome site →
      ¬t.connection.phase.isFinal → (t.onWritable site).1 = .write ∧
        (t.onWritable site).2.Underway site request ∧
        (t.onWritable site).2.connection.chunksLeft site = 0 ∧
        (t.onWritable site).2.connection.callsAtMost site < t.connection.callsAtMost site := by
    intro t ht' hq hnone hputs hopen
    have hwrite := ht'.write_of_willing hs ht hchunk hnone hopen
    have hnext := ht'.call hq hwrite
    obtain ⟨w, ho, hsent⟩ := sent_onWritable site t
    rw [hwrite] at ho
    have hchunks := ho.chunksLeft_eq ht'.inOrder ht'.faithful ht'.classified hchunk
    refine ⟨hwrite, hnext, by omega, ?_⟩
    refine ho.callsAtMost_lt ht'.inOrder hnext.inOrder hnext.faithful hchunk hnone fun hp => ?_
    have hlt := hputs hp
    rw [hsent, List.length_append] at hlt
    exact List.ne_nil_of_length_pos (by omega)
  induction count generalizing s with
  | zero =>
    intro t he hputs
    have ht' := h.elapses he
    rw [← he.connection] at hnone hcount
    by_cases hopen : t.connection.phase.isFinal
    · exact ht'.closes hopen
    · obtain ⟨-, -, -, hlt⟩ := hcall ht' he.engine hnone hputs hopen
      omega
  | succ count ih =>
    intro t he hputs
    have ht' := h.elapses he
    rw [← he.connection] at hnone hcount
    by_cases hopen : t.connection.phase.isFinal
    · exact .inl (ht'.closes hopen)
    · obtain ⟨hwrite, hnext, hnone', hlt⟩ := hcall ht' he.engine hnone hputs hopen
      exact .inr ⟨hwrite, ih hnext hnone' (by omega)⟩

/-! ### From the request on -/

/-- A request is answered in time. -/
structure InTime (site : Site) (request : Bytes) (s : Session (Recorded S)) : Prop where
  /-- Every call that wants to write on gets on with the answer, whatever happens before it. -/
  advances : ∀ {next : Next} {t t' : Session (Recorded S)},
    (World.anything (Recorded S)).Later (.write, s) (next, t) →
      (World.anything (Recorded S)).Elapses t t' → (t'.onWritable site).1 = .write →
        ∃ w, (t'.onWritable site).2.socket.sent = t'.socket.sent ++ w ∧
          Advances site t'.connection w (t'.onWritable site).2.connection
  /-- Over a socket that takes everything three of them bring an answer that is not moved in
      chunks, -/
  three : TakesAll S →
    (site.isDynamic request = false ∨ (site.answer request).body = []) →
      EndsAfter site request 3 s
  /-- and one more for each chunk an answer that is, where one request can move a chunk. -/
  chunks : TakesAll S → site.isDynamic request = true → 0 < (site.answer request).body.length →
    min site.settings.chunkSize (site.answer request).body.length ≤ FileBody.transferLimit →
      EndsAfter site request
        (3 + (site.answer request).body.length ⌈/⌉ site.settings.chunkSize) s
  /-- Where it cannot, three of them bring the header, and the next one breaks off. -/
  breaks : TakesAll S → site.isDynamic request = true →
    FileBody.transferLimit < min site.settings.chunkSize (site.answer request).body.length →
      BreaksAfter site request 3 s
  /-- Over a socket that takes something at each call, an answer that is not moved in chunks
      takes no more calls than it has bytes, and two. -/
  bytes : Willing S →
    (site.isDynamic request = false ∨ (site.answer request).body = []) →
      EndsWithin site request ((site.answer request).toBytes.length + 2) s

/-- What is asked for is answered in time. -/
theorem Asked.answered_in_time (hcheck : site.settings.check = .ok ()) (ht : site.tree.Sound)
    (h : s.Asked) : s.InTime site s.connection.received := by
  have hchunk := (Settings.valid_of_check hcheck).chunkSize
  have hzero : site.isDynamic s.connection.received = false ∨
      (site.answer s.connection.received).body = [] →
        site.chunkCount s.connection.received = 0 := by
    rintro (hstatic | hempty)
    · rw [Site.chunkCount, hstatic]
      rfl
    · rw [Site.chunkCount, hempty, List.length_nil, zero_ceilDiv, ite_self]
  constructor
  case advances =>
    intro _ _ t hl he hwrite
    have hc := hl.preserves (motive := fun _ t => t.connection.InOrder)
      (fun signal _ he _ hc => inOrder_handle signal (he.connection ▸ hc)) h.inOrder
    rw [← he.connection] at hc
    obtain ⟨w, ho, hsent⟩ := sent_onWritable site t
    rw [hwrite] at ho
    exact ⟨w, hsent, ho.advances hc hchunk⟩
  case three =>
    intro hs hfew
    -- What is not moved in chunks, or empty, has no chunk that is too long.
    have hmovable : site.Movable s.connection.received := by
      rcases hfew with hstatic | hempty
      · exact Site.movable_of_not_isDynamic hstatic
      · intro _
        rw [hempty, List.length_nil, Nat.min_zero]
        exact Nat.zero_le _
    have hends := h.endsAfter hs ht hchunk hmovable
    rwa [hzero hfew] at hends
  case chunks =>
    intro hs hdyn _ hfits
    have hends := h.endsAfter hs ht hchunk fun _ => hfits
    rwa [Site.chunkCount, if_pos hdyn] at hends
  case breaks =>
    intro hs hdyn hlong
    exact h.breaksAfter hs ht fun hmovable => Nat.not_le.2 hlong (hmovable hdyn)
  case bytes =>
    intro hs hfew
    refine h.underway.endsWithin hs ht hchunk ?_ ?_
    · rw [chunksLeft, h.phase]
      exact hzero hfew
    · rw [callsAtMost, h.phase]

end Session

/-! ### A document in chunks of a byte -/

/-- A socket that takes a byte of each second offer, and puts off the others. -/
structure Reluctant where
  ready : Bool

namespace Reluctant

instance : Socket Reluctant where
  send s bs := if s.ready then (.took (min 1 bs.length), ⟨false⟩) else (.wouldBlock, ⟨true⟩)
  fault _ := none
  signals _ := 0
  send_took_le s bs n h := by
    split at h
    · obtain rfl := Sending.took.inj h
      exact Nat.min_le_right _ _
    · cases h
  send_signals s bs h := by
    split at h <;> cases h
  receive s _ := (.wouldBlock, s)
  receive_came_le _ _ _ h := by cases h
  receive_signals _ _ h := by cases h

theorem willing : Willing Reluctant where
  send s bs hbs := by
    cases hready : s.ready with
    | false => exact .inr (.inr (congrArg Prod.fst (if_neg (by simp [hready]))))
    | true =>
      refine .inl ⟨0, (congrArg Prod.fst (if_pos hready)).trans ?_⟩
      rw [Nat.min_eq_left (List.length_pos_of_ne_nil hbs)]
  fault _ := rfl

end Reluctant

namespace Chunked

/-- The document is in the dynamic folder. -/
def folders : Settings := { staticFolder := "plain", dynamicFolder := "static" }

/-- It is moved in chunks of that size. -/
def settings (size : Nat) : Settings := { folders with chunkSize := size }

/-- A site that moves its only document in chunks of a byte. -/
def site : Site where
  settings := settings 1
  tree := Escaped.site.tree

theorem check_settings {size : Nat} (h : size ≠ 0) : (settings size).check = .ok () := by
  have haddress : folders.address = .ok ⟨0, 0, 0, 0⟩ := Settings.address_of_default rfl
  rw [settings, Settings.check_chunkSize h (by decide), Settings.check, haddress]
  rfl

theorem check_site : site.settings.check = .ok () := check_settings Nat.one_ne_zero

theorem classify_path (size : Nat) :
    (settings size).folders.classify "/static/sub/a" = .dynamic := by
  show (Folders.mk "plain" "static").classify "/static/sub/a" = .dynamic
  decide +kernel

theorem isDynamic_request (size : Nat) (content : LazyBytes) :
    Site.isDynamic ⟨settings size, Escaped.tree content⟩ Escaped.request = true := by
  rw [Escaped.isDynamic_request rfl (classify_path size ▸ nofun), classify_path]
  rfl

theorem answer_request (size : Nat) (content : LazyBytes) :
    Site.answer ⟨settings size, Escaped.tree content⟩ Escaped.request = ⟨.ok, content.toBytes⟩ :=
  Escaped.answer_request rfl (classify_path size ▸ nofun)

/-- Somebody asks for the document. -/
def asked (socket : S) : Session (Recorded S) :=
  ⟨{ token := 1, peer := "10.0.0.1:4000", phase := .requestReceived, received := Escaped.request },
    ⟨socket, []⟩, {}, []⟩

theorem asked_asked (socket : S) : (asked socket).Asked :=
  ⟨rfl, ⟨⟨rfl, rfl, rfl, rfl⟩, rfl⟩, rfl⟩

end Chunked

/-- Two chunks make five calls, over a socket that takes everything. The same document as it is
    makes no more calls than its answer has bytes, and two, over one that is reluctant. -/
theorem Session.Asked.answered_in_time_chunked : Chunked.site.settings.check = .ok () ∧
    Chunked.site.tree.Sound ∧ TakesAll Portioned ∧ Willing Reluctant ∧
    Session.EndsAfter Chunked.site Escaped.request 5 (Chunked.asked (⟨[]⟩ : Portioned)) ∧
    Session.EndsWithin Escaped.site Escaped.request 61 (Chunked.asked (⟨true⟩ : Reluctant)) := by
  have hchunks : Session.InTime Chunked.site Escaped.request (Chunked.asked (⟨[]⟩ : Portioned)) :=
    (Chunked.asked_asked _).answered_in_time Chunked.check_site Escaped.sound_site
  have hbytes : Session.InTime Escaped.site Escaped.request
      (Chunked.asked (⟨true⟩ : Reluctant)) :=
    (Chunked.asked_asked _).answered_in_time Settings.check_default Escaped.sound_site
  have hanswer : Chunked.site.answer Escaped.request = ⟨.ok, [104, 105]⟩ :=
    Chunked.answer_request 1 _
  have hanswer' : Escaped.site.answer Escaped.request = ⟨.ok, [104, 105]⟩ :=
    Escaped.answer_request rfl (Escaped.classify_path ▸ nofun)
  have hstatic : Escaped.site.isDynamic Escaped.request = false := by
    rw [Escaped.site, Escaped.isDynamic_request rfl (Escaped.classify_path ▸ nofun)]
    exact congrArg (· == Resource.dynamic) Escaped.classify_path
  refine ⟨Chunked.check_site, Escaped.sound_site, Portioned.takesAll, Reluctant.willing, ?_, ?_⟩
  · -- Three calls, and one for each of the two bytes.
    have h := hchunks.chunks Portioned.takesAll (Chunked.isDynamic_request 1 _)
      (by rw [hanswer]; decide) (by rw [hanswer]; decide)
    rw [hanswer] at h
    exact h
  · -- The answer has 59 bytes, and two calls come before the first of them.
    have h := hbytes.bytes Reluctant.willing (.inl hstatic)
    rw [hanswer'] at h
    exact h

namespace Chunked

/-- A site with a document that is a byte longer than what one request can move, and that is to be
    moved in a single chunk. -/
def longSite : Site where
  settings := settings 2147479553
  tree := Escaped.tree (.zeros 2147479553)

theorem length_answer_longSite :
    (longSite.answer Escaped.request).body.length = 2147479553 := by
  have h : longSite.answer Escaped.request = ⟨.ok, (LazyBytes.zeros 2147479553).toBytes⟩ :=
    answer_request _ _
  rw [h]
  exact (LazyBytes.zeros 2147479553).length_toBytes

/-- Its one chunk is read in part. So the fourth call does not want to write on, and nothing but
    the header goes out, though the settings are valid and the socket takes everything. -/
theorem long_chunk_breaks_off : longSite.settings.check = .ok () ∧ longSite.tree.Sound ∧
    TakesAll Portioned ∧ (asked (⟨[]⟩ : Portioned)).Asked ∧
    longSite.isDynamic Escaped.request = true ∧
    0 < (longSite.answer Escaped.request).body.length ∧
    ¬Session.EndsAfter longSite Escaped.request
      (3 + (longSite.answer Escaped.request).body.length ⌈/⌉ longSite.settings.chunkSize)
      (asked (⟨[]⟩ : Portioned)) ∧
    Session.BreaksAfter longSite Escaped.request 3 (asked (⟨[]⟩ : Portioned)) := by
  have hcheck : longSite.settings.check = .ok () := check_settings (by decide)
  have hsound : longSite.tree.Sound := Escaped.sound_tree (by decide)
  have hdynamic : longSite.isDynamic Escaped.request = true := isDynamic_request _ _
  have hlong : FileBody.transferLimit <
      min longSite.settings.chunkSize (longSite.answer Escaped.request).body.length := by
    rw [length_answer_longSite]
    decide
  have hbreaks : Session.BreaksAfter longSite Escaped.request 3 (asked (⟨[]⟩ : Portioned)) :=
    (asked_asked _).breaksAfter Portioned.takesAll hsound
      fun hmovable => Nat.not_le.2 hlong (hmovable hdynamic)
  have hcount : (2147479553 : Nat) ⌈/⌉ longSite.settings.chunkSize = 1 := by
    rw [Nat.ceilDiv_eq_add_pred_div]
    rfl
  refine ⟨hcheck, hsound, Portioned.takesAll, asked_asked _, hdynamic, ?_, ?_, hbreaks⟩
  · rw [length_answer_longSite]
    decide
  · -- The fourth call would have to want to write on.
    rw [length_answer_longSite, hcount]
    exact hbreaks.not_goesOn rfl fun t ht => ht.2.1

end Chunked

end FileServer
