import FileServer.Proofs.Answer
import FileServer.Proofs.Connection.Run
import FileServer.Proofs.Transfer.Delivery

/-!
# What writability does

All that a call can do to a connection that is told that its socket can be written, with
the bytes that go out (`Connection.Output`). There is one case for each way in which a
phase can come to an end or stop on the way; which of them happens is up to the socket and
the files. That nothing else is done is said in `Session.ends_writable`. The bytes of a
chunk are only known to be the right ones if no completion of another request waits in the
engine (`quiet`).

What is left alone of the socket and of the engine is said in `Session.writable_frame` and
`Session.writable_engine`.
-/

namespace FileServer

variable {S : Type}

namespace Connection

/-- What the open file holds; nothing if no file is open. -/
def backing (site : Site) (c : Connection) : Bytes :=
  match c.file with
  | some id => Session.contentOf site id
  | none => []

/-- How many bytes the next chunk has. -/
def chunkLength (site : Site) (c : Connection) : Nat :=
  min site.settings.chunkSize c.body.remaining

/-- The connection with a header prepared and the body announced. -/
def announce (c : Connection) (header : ResponseHeader) : Connection :=
  { c with
    header := ⟨header.toBytes, 0⟩
    bodyLength := header.length
    body := ⟨0, header.length⟩
    phase := .sendingData }

/-- The connection with so many more bytes of the header taken. -/
def passHeader (c : Connection) (count : Nat) : Connection :=
  { c with header := c.header.advance count }

/-- The connection with so many more bytes of the body carried. -/
def passBody (c : Connection) (count : Nat) : Connection :=
  { c with body := c.body.advance count }

/-- The connection in another phase. -/
def goTo (c : Connection) (phase : Phase) : Connection := { c with phase := phase }

/-- The connection with one more chunk moved, that passed through the buffer. -/
def passChunk (c : Connection) (count : Nat) (chunk : LazyBytes) : Connection :=
  { c.passBody count with
    chunk := chunk
    chunks := c.chunks + 1
    phase := if c.body.remaining - count = 0 then .dataSent else c.phase }

/-- What writability does to a connection, which bytes go out on the socket, and what
    is wanted then. -/
inductive Output (site : Site) (quiet : Prop) (c : Connection) : Next → Bytes → Connection → Prop
  /-- There is no request yet. -/
  | early : c.phase = .initial ∨ c.phase = .receiving → Output site quiet c .read [] c
  /-- The response is out. -/
  | late : c.phase.isFinal → Output site quiet c .close [] c
  /-- The request names a document, which is opened. -/
  | finds {head : RequestHead} {file : String} {id : FileId} : c.phase = .requestReceived →
      RequestHead.read c.received = .ok (head, c.received.length) →
      site.settings.folders.classify head.path ≠ .unserved →
      Folders.resolve site.settings.documentRoot head.path = some file →
      site.tree.openRegular file = .ok id →
      Output site quiet c .write [] { c with
        resource := site.settings.folders.classify head.path
        path := some head.path
        file := some id
        phase := .sendingHeader }
  /-- The request names no document. -/
  | misses (resource : Resource) (path : Option String) : c.phase = .requestReceived →
      site.document? c.received = none →
      Output site quiet c .write [] { c with
        resource := resource, path := path, phase := .sendingNotFound }
  /-- The page is there and announced. -/
  | announcesPage {id : FileId} {n : Nat} : c.phase = .sendingNotFound →
      Session.openPage site = .ok (id, n) →
      Output site quiet c .write []
        (announce { c with status := .notFound, file := some id } ⟨.notFound, n⟩)
  /-- There is no page. -/
  | announcesNothing {e : SystemError} : c.phase = .sendingNotFound →
      Session.openPage site = .error e →
      Output site quiet c .write []
        (announce { c with status := .notFound, file := none } ⟨.notFound, 0⟩)
  /-- The document is announced. -/
  | announcesDocument {id : FileId} {content : Bytes} : c.phase = .sendingHeader →
      c.file = some id → site.tree.content? id = some content →
      Output site quiet c .write [] (announce { c with status := .ok } ⟨.ok, content.length⟩)
  /-- There is no document to announce. -/
  | announcesNoDocument : c.phase = .sendingHeader → c.file = none →
      Output site quiet c .write [] (announce { c with status := .ok } ⟨.ok, 0⟩)
  /-- The document has no length. -/
  | loses : c.phase = .sendingHeader → Output site quiet c .close [] c
  /-- A part of the header goes out. -/
  | sendsHeaderPart {next : Next} {k : Nat} : c.phase = .sendingData → k < c.header.remaining →
      next ≠ .read → Output site quiet c next (c.header.rest.take k) (c.passHeader k)
  /-- The rest of the header goes out, and there is no body. -/
  | sendsHeader : c.phase = .sendingData → c.file = none ∨ c.body.remaining = 0 →
      Output site quiet c .write c.header.rest
        ((c.passHeader c.header.remaining).goTo c.finalPhase)
  /-- The rest of the header goes out, and a part of the body. -/
  | sendsBodyPart {next : Next} {k : Nat} : c.phase = .sendingData → Session.isDirect c →
      k < c.body.remaining → (FileBody.slice (c.backing site) c.body.offset k).length = k →
      (next = .write ∧ c.body.offset + k < (c.backing site).length ∨ next = .close) →
      Output site quiet c next (c.header.rest ++ FileBody.slice (c.backing site) c.body.offset k)
        ((c.passHeader c.header.remaining).passBody k)
  /-- The rest of the header goes out, and the rest of the body. -/
  | sendsBody : c.phase = .sendingData → Session.isDirect c → 0 < c.body.remaining →
      (FileBody.slice (c.backing site) c.body.offset c.body.remaining).length = c.body.remaining →
      Output site quiet c .write
        (c.header.rest ++ FileBody.slice (c.backing site) c.body.offset c.body.remaining)
        (((c.passHeader c.header.remaining).passBody c.body.remaining).goTo c.finalPhase)
  /-- The rest of the header goes out, and the body is to follow in chunks. -/
  | turnsToChunks : c.phase = .sendingData → c.file.isSome → 0 < c.body.remaining →
      ¬Session.isDirect c →
      Output site quiet c .write c.header.rest
        ((c.passHeader c.header.remaining).goTo .movingChunks)
  /-- A chunk is moved. -/
  | movesChunk {w : Bytes} (chunk : LazyBytes) : c.phase = .movingChunks → c.file.isSome →
      (quiet → w = FileBody.slice (c.backing site) c.body.offset (c.chunkLength site) ∧
        w.length = c.chunkLength site) →
      Output site quiet c .write w (c.passChunk (c.chunkLength site) chunk)
  /-- A chunk cannot be moved, or not all of it. -/
  | losesChunk {w : Bytes} (chunk : LazyBytes) : c.phase = .movingChunks →
      (quiet → w <+: FileBody.slice (c.backing site) c.body.offset (c.chunkLength site) ∧
        (w = [] ∨ w.length < c.chunkLength site)) →
      Output site quiet c .close w { c with chunk := chunk }
  /-- There is no file to take chunks from. -/
  | movesNothing : c.phase = .movingChunks → c.file = none →
      Output site quiet c .write [] (c.goTo c.finalPhase)

end Connection

namespace Session

open Connection

/-! ### What is left alone -/

/-- To open a document changes nothing but what is noted. -/
theorem openDocument_frame (site : Site) (s : Session S) (path : String) :
    (s.openDocument site path).2.connection = s.connection ∧
      (s.openDocument site path).2.socket = s.socket ∧
      (s.openDocument site path).2.engine = s.engine := by
  rw [openDocument]
  split
  · exact ⟨rfl, rfl, rfl⟩
  split
  · exact ⟨rfl, rfl, rfl⟩
  split
  · exact ⟨rfl, rfl, rfl⟩
  · exact ⟨rfl, rfl, rfl⟩

/-- To look at a request and to prepare a header is to send nothing and to ask nothing of
    the engine. -/
theorem processRequest_frame (site : Site) (s : Session S) :
    (s.processRequest site).socket = s.socket ∧ (s.processRequest site).engine = s.engine := by
  rw [processRequest]
  split
  · exact ⟨rfl, rfl⟩
  split
  · rename_i head _ _ _
    unfold serve
    extract_lets resource s₁
    obtain ⟨-, hsock, heng⟩ := openDocument_frame site s₁ head.path
    rcases hopen : s₁.openDocument site head.path with ⟨_ | id, s₂⟩
    · rw [hopen] at hsock heng
      exact ⟨hsock, heng⟩
    · rw [hopen] at hsock heng
      exact ⟨hsock, heng⟩
  · exact ⟨rfl, rfl⟩

theorem prepareNotFound_frame (site : Site) (s : Session S) :
    (s.prepareNotFound site).socket = s.socket ∧ (s.prepareNotFound site).engine = s.engine := by
  rw [prepareNotFound]
  split <;> exact ⟨rfl, rfl⟩

theorem prepareHeader_frame (site : Site) (s : Session S) :
    (s.prepareHeader site).2.socket = s.socket ∧ (s.prepareHeader site).2.engine = s.engine := by
  rw [prepareHeader]
  split <;> exact ⟨rfl, rfl⟩

theorem countChunk_connection (s : Session S) (n : Nat) :
    (s.countChunk n).connection = s.connection.passChunk n s.connection.chunk := by
  simp only [countChunk, passChunk, passBody, FileBody.advance]
  split <;> simp_all

theorem countChunk_frame (s : Session S) (n : Nat) :
    (s.countChunk n).socket = s.socket ∧ (s.countChunk n).engine = s.engine := by
  simp only [countChunk]
  split <;> exact ⟨rfl, rfl⟩

section

variable [Sink S] {α : Type} {f : S → α} (hf : ∀ s bs, f (Sink.send s bs).2 = f s)
  (site : Site) (s : Session S)

include hf

theorem sendBody_frame (id : FileId) : (s.sendBody site id).2.engine = s.engine ∧
    f (s.sendBody site id).2.socket = f s.socket := by
  have hrun := FileBody.run_frame hf (contentOf site id) s.connection.body s.socket
  rw [sendBody]
  dsimp only
  split <;> exact ⟨rfl, hrun⟩

theorem afterHeader_frame : (s.afterHeader site).2.engine = s.engine ∧
    f (s.afterHeader site).2.socket = f s.socket := by
  rw [afterHeader]
  split
  · exact ⟨rfl, rfl⟩
  split
  · exact ⟨rfl, rfl⟩
  split
  · exact sendBody_frame hf site s _
  · exact ⟨rfl, rfl⟩

theorem sendData_frame : (s.sendData site).2.engine = s.engine ∧
    f (s.sendData site).2.socket = f s.socket := by
  have hflush := SendBuffer.flush_frame hf s.connection.header s.socket
  rw [sendData]
  dsimp only
  split
  · exact ⟨rfl, hflush⟩
  · exact ⟨rfl, hflush⟩
  · obtain ⟨heng, hsock⟩ := afterHeader_frame hf site ({ s with
      socket := (s.connection.header.flush s.socket).2.2 }.update fun c =>
        { c with header := (s.connection.header.flush s.socket).2.1 })
    exact ⟨heng, hsock.trans hflush⟩

theorem writeChunk_frame (n : Nat) : f (s.writeChunk n).2.socket = f s.socket := by
  have hwrite := Engine.writeFrom_frame hf s.engine s.socket (s.connection.chunk.toBytes.take n)
  rw [writeChunk]
  split
  · exact hwrite
  split
  · rw [(countChunk_frame _ _).1]
    exact hwrite
  · exact hwrite

theorem sendChunk_frame : f (s.sendChunk site).2.socket = f s.socket := by
  rw [sendChunk]
  split
  · rfl
  dsimp only
  split
  · rfl
  split
  · exact writeChunk_frame hf _ _
  · rfl

/-- Writability leaves of the socket what sending to it leaves alone. -/
theorem writable_frame : f (s.writable site).2.socket = f s.socket := by
  rw [writable]
  split
  · rfl
  · rfl
  · rw [(processRequest_frame site s).1]
  · rw [(prepareNotFound_frame site s).1]
  · rw [(prepareHeader_frame site s).1]
  · exact (sendData_frame hf site s).2
  · exact sendChunk_frame hf site s
  all_goals rfl

end

/-- Only chunks are moved through the engine. -/
theorem writable_engine [Sink S] {site : Site} {s : Session S}
    (hp : s.connection.phase ≠ .movingChunks) : (s.writable site).2.engine = s.engine := by
  rw [writable]
  split
  · rfl
  · rfl
  · exact (processRequest_frame site s).2
  · exact (prepareNotFound_frame site s).2
  · exact (prepareHeader_frame site s).2
  · exact (sendData_frame (f := fun _ => ()) (fun _ _ => rfl) site s).1
  · exact absurd ‹_› hp
  all_goals rfl

/-! ### What goes out -/

/-- A handler of writability ended as `Connection.Output` allows, and the bytes that it
    put on the socket are those said there. -/
def Ends [Sink S] (site : Site) (s : Session (Recorded S)) (handled : Handled (Recorded S)) :
    Prop :=
  ∃ w, Output site (s.engine.waiting = []) s.connection (wish handled.1) w handled.2.connection ∧
    handled.2.socket.sent = s.socket.sent ++ w ∧
    (s.engine.waiting = [] → handled.2.engine.waiting = [])

/-- A document that was opened is served, and its path leads to it. -/
theorem openDocument_eq_some {site : Site} {s : Session S} {path : String} {id : FileId}
    (h : (s.openDocument site path).1 = some id) :
    s.connection.resource ≠ .unserved ∧ ∃ file,
      Folders.resolve site.settings.documentRoot path = some file ∧
        site.tree.openRegular file = .ok id := by
  rw [openDocument] at h
  split at h
  · simp at h
  rename_i hres
  split at h
  · simp at h
  rename_i file hfile
  split at h
  · rename_i id' hid
    obtain rfl := Option.some.inj h
    exact ⟨hres, file, hfile, hid⟩
  · simp at h

/-- Where no document was opened, none is served or the path leads to none. -/
theorem openDocument_eq_none {site : Site} {s : Session S} {path : String}
    (h : (s.openDocument site path).1 = none) (hres : s.connection.resource ≠ .unserved) :
    ((Folders.resolve site.settings.documentRoot path).bind fun file =>
      (site.tree.openRegular file).toOption) = none := by
  rw [openDocument] at h
  split at h
  · exact absurd ‹_› hres
  split at h
  · rename_i hfile
    rw [hfile, Option.bind_none]
  rename_i file hfile
  split at h
  · simp at h
  · rename_i e he
    rw [hfile, Option.bind_some, he]
    rfl

variable [Sink S] {site : Site} {s t : Session (Recorded S)} {r : Except ConnectionFailure Next}

/-- A handler that puts nothing on the socket and asks nothing of the engine. -/
theorem Ends.silent
    (ho : Output site (s.engine.waiting = []) s.connection (wish r) [] t.connection)
    (hs : t.socket = s.socket) (he : t.engine = s.engine) : Ends site s (r, t) :=
  ⟨[], ho, by rw [hs, List.append_nil], fun hq => he ▸ hq⟩

theorem ends_serve {head : RequestHead} (hp : s.connection.phase = .requestReceived)
    (hread : RequestHead.read s.connection.received = .ok (head, s.connection.received.length)) :
    Ends site s (.ok .write, s.serve site head) := by
  unfold serve
  extract_lets resource s₁
  obtain ⟨hcon, hsock, heng⟩ := openDocument_frame site s₁ head.path
  rcases hopen : s₁.openDocument site head.path with ⟨file, s₂⟩
  rw [hopen] at hcon hsock heng
  dsimp only at hcon hsock heng ⊢
  cases file with
  | some id =>
    -- The document is open.
    obtain ⟨hres, file, hfile, hid⟩ := openDocument_eq_some (congrArg Prod.fst hopen)
    refine .silent ?_ hsock heng
    simp only [enter_connection, update_connection, hcon]
    exact .finds hp hread hres hfile hid
  | none =>
    -- It could not be opened, or the path is that of no resource.
    refine .silent ?_ hsock heng
    simp only [refuse, enter_connection, update_connection, hcon]
    refine .misses resource (some head.path) hp ?_
    rw [Site.document?, hread]
    by_cases hres : resource = .unserved
    · exact if_neg fun h => h.2 hres
    · exact (if_pos ⟨rfl, hres⟩).trans (openDocument_eq_none (congrArg Prod.fst hopen) hres)

theorem ends_processRequest (hp : s.connection.phase = .requestReceived) :
    Ends site s (.ok .write, s.processRequest site) := by
  rw [processRequest]
  split
  · rename_i e hread
    refine .silent (.misses s.connection.resource s.connection.path hp ?_) rfl rfl
    rw [Site.document?, hread]
  rename_i head n hread
  split
  · rename_i hn
    exact ends_serve hp (hn ▸ hread)
  · rename_i hn
    refine .silent (.misses s.connection.resource s.connection.path hp ?_) rfl rfl
    rw [Site.document?, hread]
    exact if_neg fun h => hn h.1

theorem ends_prepareNotFound (hp : s.connection.phase = .sendingNotFound) :
    Ends site s (.ok .write, s.prepareNotFound site) := by
  rw [prepareNotFound]
  split
  · rename_i id n h
    exact .silent (.announcesPage hp h) rfl rfl
  · rename_i e h
    exact .silent (.announcesNothing hp h) rfl rfl

theorem ends_prepareHeader (hp : s.connection.phase = .sendingHeader) :
    Ends site s (s.prepareHeader site) := by
  rw [prepareHeader, documentLength]
  cases hfile : s.connection.file with
  | none => exact .silent (.announcesNoDocument hp hfile) rfl rfl
  | some id =>
    simp only [FileTree.size_eq]
    cases hcontent : site.tree.content? id with
    | none => exact .silent (.loses hp) rfl rfl
    | some content => exact .silent (.announcesDocument hp hfile hcontent) rfl rfl

theorem ends_sendBody {id : FileId} (hp : s.connection.phase = .sendingData)
    (hc : t.connection = s.connection.passHeader s.connection.header.remaining)
    (hsent : t.socket.sent = s.socket.sent ++ s.connection.header.rest)
    (he : t.engine = s.engine) (hfile : s.connection.file = some id)
    (hrem : 0 < s.connection.body.remaining) (hd : isDirect s.connection) :
    Ends site s (t.sendBody site id) := by
  have hback : s.connection.backing site = contentOf site id := by rw [backing, hfile]
  have hbody : t.connection.body = s.connection.body := by rw [hc]; rfl
  obtain ⟨k, hk, hrun, hout, hlen, hdone, hblocked⟩ :=
    FileBody.run_sent (contentOf site id) t.connection.body t.socket
  rw [sendBody]
  rcases hf : t.connection.body.run (contentOf site id) t.socket with ⟨result, body, socket⟩
  rw [hf] at hrun hout hdone hblocked
  dsimp only at hrun hout hdone hblocked ⊢
  rw [hbody] at hk hrun hout hlen hdone hblocked
  rw [← hback] at hout hlen hblocked
  rw [hsent, List.append_assoc] at hout
  -- The run was done, or it stopped on the way by a failure or because the socket was full.
  by_cases hr : result = .ok .done
  · obtain rfl := hdone.1 hr
    subst hr
    refine ⟨_, ?_, hout, fun hq => he ▸ hq⟩
    simp only [complete, update_connection, enter_connection, hrun, hc]
    exact .sendsBody hp hd hrem hlen
  · have hlt : k < s.connection.body.remaining := Nat.lt_of_le_of_ne hk fun h => hr (hdone.2 h)
    rcases result with e | _ | _
    · refine ⟨_, ?_, hout, fun hq => he ▸ hq⟩
      simp only [update_connection, hrun, hc]
      exact .sendsBodyPart hp hd hlt hlen (.inr rfl)
    · exact absurd rfl hr
    · refine ⟨_, ?_, hout, fun hq => he ▸ hq⟩
      simp only [update_connection, hrun, hc]
      exact .sendsBodyPart hp hd hlt hlen (.inl ⟨rfl, hblocked rfl⟩)

theorem ends_afterHeader (hp : s.connection.phase = .sendingData)
    (hc : t.connection = s.connection.passHeader s.connection.header.remaining)
    (hsent : t.socket.sent = s.socket.sent ++ s.connection.header.rest)
    (he : t.engine = s.engine) : Ends site s (t.afterHeader site) := by
  have hfile : t.connection.file = s.connection.file := by rw [hc]; rfl
  have hbody : t.connection.body = s.connection.body := by rw [hc]; rfl
  have hdirect : isDirect t.connection = isDirect s.connection := by rw [hc]; rfl
  have hfinal : t.connection.finalPhase = s.connection.finalPhase := by rw [hc]; rfl
  rw [afterHeader, hfile, hbody, hdirect]
  split
  · -- No document is open.
    rename_i hnone
    refine ⟨_, ?_, hsent, fun hq => he ▸ hq⟩
    simp only [complete, enter_connection, hfinal]
    rw [hc]
    exact .sendsHeader hp (.inl hnone)
  rename_i id hid
  split
  · -- The document is empty.
    rename_i hrem
    refine ⟨_, ?_, hsent, fun hq => he ▸ hq⟩
    simp only [complete, enter_connection, hfinal]
    rw [hc]
    exact .sendsHeader hp (.inr hrem)
  rename_i hrem
  split
  · -- The body goes straight from the file,
    rename_i hd
    exact ends_sendBody hp hc hsent he hid (Nat.pos_of_ne_zero hrem) hd
  · -- or is moved in chunks.
    rename_i hd
    refine ⟨_, ?_, hsent, fun hq => he ▸ hq⟩
    simp only [enter_connection]
    rw [hc]
    exact .turnsToChunks hp (by rw [hid]; rfl) (Nat.pos_of_ne_zero hrem) hd

theorem ends_sendData (hp : s.connection.phase = .sendingData) :
    Ends site s (s.sendData site) := by
  obtain ⟨k, hk, hflush, hout, hdone⟩ := s.connection.header.flush_sent s.socket
  rw [sendData]
  rcases hf : s.connection.header.flush s.socket with ⟨result, header, socket⟩
  rw [hf] at hflush hout hdone
  dsimp only at hflush hout hdone ⊢
  -- Only behind all of the header it is the turn of the body.
  by_cases hr : result = .ok .done
  · obtain rfl := hdone.1 hr
    subst hr hflush
    refine ends_afterHeader hp rfl ?_ rfl
    rw [← SendBuffer.length_rest, List.take_length] at hout
    exact hout
  · have hlt : k < s.connection.header.remaining := Nat.lt_of_le_of_ne hk fun h => hr (hdone.2 h)
    subst hflush
    rcases result with e | _ | _
    · exact ⟨_, .sendsHeaderPart hp hlt (by simp [wish]), hout, id⟩
    · exact absurd rfl hr
    · exact ⟨_, .sendsHeaderPart hp hlt (by simp [wish]), hout, id⟩

/-- The chunk that was read goes out: `t` is the session after the read, which has put
    `n` bytes into the buffer. -/
theorem ends_writeChunk {n : Nat} (hp : s.connection.phase = .movingChunks)
    (hn : n = s.connection.chunkLength site) (hfile : s.connection.file.isSome)
    (hc : t.connection = { s.connection with chunk := t.connection.chunk })
    (hs : t.socket = s.socket) (he : s.engine.waiting = [] → t.engine.waiting = [])
    (hread : s.engine.waiting = [] → t.connection.chunk.toBytes.take n =
      FileBody.slice (s.connection.backing site) s.connection.body.offset n ∧
        (t.connection.chunk.toBytes.take n).length = n) :
    Ends site s (t.writeChunk n) := by
  subst hn
  obtain ⟨w, hsent, hpre, hres⟩ := t.engine.writeFrom_sent t.socket
    (t.connection.chunk.toBytes.take (s.connection.chunkLength site))
  have hquiet : s.engine.waiting = [] → (t.engine.writeFrom t.socket
      (t.connection.chunk.toBytes.take (s.connection.chunkLength site))).engine.waiting = [] :=
    fun hq => Engine.waiting_runOne (he hq)
  rw [writeChunk]
  split
  · rename_i e herr
    refine ⟨w, ?_, hs ▸ hsent, hquiet⟩
    rw [herr] at hres
    simp only [afterRequest]
    rw [hc]
    refine .losesChunk _ hp fun hq => ⟨?_, .inl (hres (he hq))⟩
    rw [← (hread hq).1]
    exact hpre
  · rename_i m hm
    rw [hm] at hres
    split
    · rename_i hmn
      subst hmn
      refine ⟨w, ?_, ?_, fun hq => ?_⟩
      · rw [countChunk_connection]
        simp only [afterRequest]
        rw [hc]
        refine .movesChunk _ hp hfile fun hq => ?_
        -- All of the chunk was taken.
        have hw : w = t.connection.chunk.toBytes.take (s.connection.chunkLength site) := by
          rw [(hres (he hq)).1, List.take_take, Nat.min_self]
        rw [hw]
        exact hread hq
      · rw [(countChunk_frame _ _).1]
        exact hs ▸ hsent
      · rw [(countChunk_frame _ _).2]
        exact hquiet hq
    · rename_i hmn
      refine ⟨w, ?_, hs ▸ hsent, hquiet⟩
      simp only [afterRequest]
      rw [hc]
      refine .losesChunk _ hp fun hq => ⟨?_, .inr ?_⟩
      · rw [← (hread hq).1]
        exact hpre
      · obtain ⟨rfl, hle⟩ := hres (he hq)
        have hlen := (hread hq).2
        rw [hlen] at hle
        rw [List.length_take]
        omega

theorem ends_sendChunk (hp : s.connection.phase = .movingChunks) :
    Ends site s (s.sendChunk site) := by
  rw [sendChunk]
  cases hfile : s.connection.file with
  | none =>
    refine .silent ?_ rfl rfl
    exact .movesNothing hp hfile
  | some id =>
    have hback : s.connection.backing site = contentOf site id := by rw [backing, hfile]
    have hquiet : s.engine.waiting = [] → (s.engine.readAt site.tree
        ⟨id, s.connection.body.offset, s.connection.chunkLength site⟩
        (s.connection.chunk.widen (s.connection.chunkLength site))).engine.waiting = [] :=
      fun hq => Engine.waiting_runOne hq
    have hlost : ∀ chunk, Output site (s.engine.waiting = []) s.connection .close []
        { s.connection with chunk := chunk } := fun chunk =>
      .losesChunk chunk hp fun _ => ⟨List.nil_prefix, .inl rfl⟩
    simp only
    split
    · -- The chunk cannot be read.
      exact ⟨[], hlost _, (List.append_nil _).symm, hquiet⟩
    rename_i m hm
    split
    · -- All of it is read, and so it is written.
      rename_i hmn
      refine ends_writeChunk hp rfl (by rw [hfile]; rfl) rfl rfl hquiet fun hq => ?_
      obtain ⟨content, hcontent, hlen, htake⟩ := Engine.readAt_filled hq (hmn ▸ hm)
      rw [hback, contentOf, hcontent, Option.getD_some]
      exact ⟨htake, by rw [update_connection, htake, hlen]⟩
    · -- Less of it is read.
      exact ⟨[], hlost _, (List.append_nil _).symm, hquiet⟩

/-- Writability does what `Connection.Output` allows. -/
theorem ends_writable (site : Site) (s : Session (Recorded S)) :
    Ends site s (s.writable site) := by
  rw [writable]
  split
  · rename_i hp
    exact .silent (.early (.inl hp)) rfl rfl
  · rename_i hp
    exact .silent (.early (.inr hp)) rfl rfl
  · rename_i hp
    exact ends_processRequest hp
  · rename_i hp
    exact ends_prepareNotFound hp
  · rename_i hp
    exact ends_prepareHeader hp
  · rename_i hp
    exact ends_sendData hp
  · rename_i hp
    exact ends_sendChunk hp
  all_goals
    rename_i hp
    exact .silent (.late (by rw [hp]; rfl)) rfl rfl

end Session

end FileServer
