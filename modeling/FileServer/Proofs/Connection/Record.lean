import FileServer.Proofs.Connection.Intake
import FileServer.Proofs.Connection.Output

/-!
# Recording changes nothing

A session on a recorded socket goes the way it goes on the inner socket: whether the
record is dropped before a handler is called or after it makes no difference
(`Session.handle_forget`). So every session is one on a recorded socket without its
record, and what a call does to a connection can be said of every socket
(`Session.output_onWritable`).
-/

namespace FileServer

variable {S : Type}

namespace Recorded

/-- What the recorded socket answers, the inner one answers. -/
theorem receive_inner [Socket S] {s s' : Recorded S} {n : Nat} {r : Receiving}
    (h : Socket.receive s n = (r, s')) : Socket.receive s.inner n = (r, s'.inner) := by
  obtain ⟨rfl, rfl⟩ := Prod.mk.inj h
  rfl

end Recorded

theorem SendBuffer.flush_inner [Sink S] (b : SendBuffer) (s : Recorded S) :
    b.flush s.inner = ((b.flush s).1, (b.flush s).2.1, (b.flush s).2.2.inner) :=
  flush_map (f := Recorded.inner) (fun _ _ => rfl) b s

namespace FileBody

theorem carry_inner [Sink S] (s : Recorded S) (part : Bytes) :
    carry s.inner part = ((carry s part).1, (carry s part).2.inner) := by
  rw [carry, carry]
  split <;> rfl

theorem step_inner [Sink S] {s s' : Recorded S} {file : Bytes} {offset count : Nat} {r : Sending}
    (h : step s file offset count = (r, s')) :
    step s.inner file offset count = (r, s'.inner) := by
  have hfault : Sink.fault s.inner = Sink.fault s := rfl
  rw [step] at h ⊢
  rw [hfault]
  split
  · rw [if_pos ‹_›] at h
    obtain ⟨rfl, rfl⟩ := Prod.mk.inj h
    rfl
  rw [if_neg ‹_›] at h
  split
  · simp_all
  split
  · simp_all
  · simp_all [carry_inner]

theorem run_inner [Sink S] (file : Bytes) (body : FileBody) (s : Recorded S) :
    run file body s.inner =
      ((run file body s).1, (run file body s).2.1, (run file body s).2.2.inner) := by
  fun_induction run file body s with
  | case6 body s h => rw [run, dif_neg h]
  | _ body s h =>
    rw [run, dif_pos h]
    split <;> simp_all [step_inner ‹_›]

end FileBody

theorem Engine.writeFrom_inner [Sink S] (e : Engine) (s : Recorded S) (bs : Bytes) :
    e.writeFrom s.inner bs =
      { e.writeFrom s bs with world := (e.writeFrom s bs).world.inner } := by
  have hfault : Sink.fault s.inner = Sink.fault s := rfl
  simp only [writeFrom, runOne, submit, accept, writeSocket, hfault]
  cases Sink.fault s with
  | some error => rfl
  | none => rfl

namespace Session

/-- The session on the inner socket. -/
def forget (s : Session (Recorded S)) : Session S := { s with socket := s.socket.inner }

/-- The session with an empty record. -/
def record (s : Session S) : Session (Recorded S) := { s with socket := ⟨s.socket, []⟩ }

@[simp] theorem forget_record (s : Session S) : s.record.forget = s := rfl

@[simp] theorem forget_connection (s : Session (Recorded S)) :
    s.forget.connection = s.connection := rfl

@[simp] theorem forget_engine (s : Session (Recorded S)) : s.forget.engine = s.engine := rfl

theorem forget_note (s : Session (Recorded S)) (level : Level) (text : String)
    (details : List (String × String)) :
    s.forget.note level text details = (s.note level text details).forget := rfl

theorem forget_update (s : Session (Recorded S)) (f : Connection → Connection) :
    s.forget.update f = (s.update f).forget := rfl

theorem forget_enter (s : Session (Recorded S)) (phase : Phase) :
    s.forget.enter phase = (s.enter phase).forget := rfl

theorem forget_afterRequest {W : Type} (s : Session (Recorded S)) (a : Engine.Answer W) :
    s.forget.afterRequest a = (s.afterRequest a).forget := rfl

/-- One round of receiving, by what the socket answers. -/
theorem receive_of_room [Socket S] {limit : Nat} {s : Session S}
    (h : ¬limit ≤ s.connection.received.length) :
    s.receive limit =
      match Socket.receive s.socket (min (limit - s.connection.received.length) readSize) with
      | (.came [], socket) => (.error .peerClosed, { s with socket := socket })
      | (.came (b :: bs), socket) =>
        let s' := s.append socket (b :: bs)
        if (findBlankLine? (s'.connection.received.drop
            (s.connection.received.length - overlap))).isSome then
          (.ok .write, s'.enter .requestReceived)
        else s'.receive limit
      | (.interrupted, socket) => { s with socket := socket }.receive limit
      | (.wouldBlock, socket) => (.ok .read, { s with socket := socket })
      | (.failed e, socket) => (.error (.receive e), { s with socket := socket }) := by
  -- The branches of `receive` hold proofs of what was answered, which stand in the way of
  -- rewriting the answer.
  rw [receive, dif_neg h]
  split <;> simp_all

theorem receive_forget [Socket S] (limit : Nat) (s : Session (Recorded S)) :
    s.forget.receive limit = ((s.receive limit).1, (s.receive limit).2.forget) := by
  have hinner : ∀ {s : Session (Recorded S)} {r socket},
      Socket.receive s.socket (min (limit - s.connection.received.length) readSize) =
        (r, socket) →
      Socket.receive s.forget.socket
        (min (limit - s.forget.connection.received.length) readSize) = (r, socket.inner) :=
    Recorded.receive_inner
  fun_induction receive limit s with
  | case1 s before h =>
    -- The size is reached.
    rw [receive, dif_pos (show limit ≤ s.forget.connection.received.length from h)]
    rfl
  | case2 s before h socket hr | case6 s before h socket hr | case7 s before h e socket hr =>
    -- Nothing came.
    rw [receive_of_room (s := s.forget) h, hinner hr]
    rfl
  | case3 s before h b bs socket hr s' hb =>
    -- A blank line came.
    rw [receive_of_room (s := s.forget) h, hinner hr]
    exact if_pos hb
  | case4 s before h b bs socket hr s' hb ih =>
    -- Bytes came, but no blank line.
    rw [receive_of_room (s := s.forget) h, hinner hr]
    exact (if_neg hb).trans ih
  | case5 s before h socket hr ih =>
    -- The read was interrupted.
    rw [receive_of_room (s := s.forget) h, hinner hr]
    exact ih

theorem finish_forget (handled : Handled (Recorded S)) :
    finish (handled.1, handled.2.forget) = ((finish handled).1, (finish handled).2.forget) := by
  rcases handled with ⟨_ | next, s⟩
  · simp only [finish]
    split <;> rfl
  · rfl

theorem sendBody_forget [Sink S] (site : Site) (s : Session (Recorded S)) (id : FileId) :
    s.forget.sendBody site id = ((s.sendBody site id).1, (s.sendBody site id).2.forget) := by
  have h := FileBody.run_inner (contentOf site id) s.connection.body s.socket
  simp only [sendBody, forget] at h ⊢
  rw [h]
  split <;> simp_all <;> rfl

theorem afterHeader_forget [Sink S] (site : Site) (s : Session (Recorded S)) :
    s.forget.afterHeader site = ((s.afterHeader site).1, (s.afterHeader site).2.forget) := by
  rw [afterHeader, afterHeader, forget_connection]
  split
  · rfl
  split
  · rfl
  split
  · exact sendBody_forget site s _
  · rfl

theorem sendData_forget [Sink S] (site : Site) (s : Session (Recorded S)) :
    s.forget.sendData site = ((s.sendData site).1, (s.sendData site).2.forget) := by
  rcases hf : s.connection.header.flush s.socket with ⟨result, header, socket⟩
  have h := s.connection.header.flush_inner s.socket
  simp only [sendData, forget, hf] at h ⊢
  rw [h]
  dsimp only
  split
  · rfl
  · rfl
  · exact afterHeader_forget site
      ({ s with socket := socket }.update fun c => { c with header := header })

theorem countChunk_forget (s : Session (Recorded S)) (n : Nat) :
    s.forget.countChunk n = (s.countChunk n).forget := by
  simp only [countChunk, forget_update, forget_connection, forget_note, forget_enter]
  exact (apply_ite forget (_ = 0) _ _).symm

theorem writeChunk_forget [Sink S] (s : Session (Recorded S)) (n : Nat) :
    s.forget.writeChunk n = ((s.writeChunk n).1, (s.writeChunk n).2.forget) := by
  have h := s.engine.writeFrom_inner s.socket (s.connection.chunk.toBytes.take n)
  simp only [writeChunk, forget] at h ⊢
  rw [h]
  dsimp only
  split
  · rfl
  split
  · exact congrArg (Prod.mk _) (countChunk_forget
      { s.afterRequest (s.engine.writeFrom s.socket (s.connection.chunk.toBytes.take n)) with
        socket := (s.engine.writeFrom s.socket (s.connection.chunk.toBytes.take n)).world } n)
  · rfl

theorem sendChunk_forget [Sink S] (site : Site) (s : Session (Recorded S)) :
    s.forget.sendChunk site = ((s.sendChunk site).1, (s.sendChunk site).2.forget) := by
  rw [sendChunk, sendChunk, forget_connection]
  split
  · rfl
  rename_i id hid
  simp only [forget_engine, forget_afterRequest, forget_update, writeChunk_forget]
  split
  · rfl
  split
  · rfl
  · rfl

theorem openDocument_forget (site : Site) (s : Session (Recorded S)) (path : String) :
    s.forget.openDocument site path =
      ((s.openDocument site path).1, (s.openDocument site path).2.forget) := by
  rw [openDocument, openDocument, forget_connection]
  split
  · rfl
  split
  · rfl
  split
  · rfl
  · rfl

theorem serve_forget (site : Site) (s : Session (Recorded S)) (head : RequestHead) :
    s.forget.serve site head = (s.serve site head).forget := by
  simp only [serve, forget_update, forget_note, openDocument_forget]
  split
  · rfl
  · rfl

theorem processRequest_forget (site : Site) (s : Session (Recorded S)) :
    s.forget.processRequest site = (s.processRequest site).forget := by
  rw [processRequest, processRequest, forget_connection]
  split
  · rfl
  split
  · exact serve_forget site s _
  · rfl

theorem prepareNotFound_forget (site : Site) (s : Session (Recorded S)) :
    s.forget.prepareNotFound site = (s.prepareNotFound site).forget := by
  rw [prepareNotFound, prepareNotFound]
  split <;> rfl

theorem prepareHeader_forget (site : Site) (s : Session (Recorded S)) :
    s.forget.prepareHeader site = ((s.prepareHeader site).1, (s.prepareHeader site).2.forget) := by
  have hlength : s.forget.documentLength site = s.documentLength site := rfl
  rw [prepareHeader, prepareHeader, hlength]
  split <;> rfl

theorem readable_forget [Socket S] (site : Site) (hangup : Bool) (s : Session (Recorded S)) :
    s.forget.readable site hangup =
      ((s.readable site hangup).1, (s.readable site hangup).2.forget) := by
  rw [readable, readable, forget_connection]
  split
  · exact receive_forget _ (s.enter .receiving)
  · exact receive_forget _ s
  · rfl
  · split
    · rfl
    · rfl

theorem writable_forget [Sink S] (site : Site) (s : Session (Recorded S)) :
    s.forget.writable site = ((s.writable site).1, (s.writable site).2.forget) := by
  rw [writable, writable, forget_connection]
  split
  · rfl
  · rfl
  · exact congrArg (Prod.mk _) (processRequest_forget site s)
  · exact congrArg (Prod.mk _) (prepareNotFound_forget site s)
  · exact prepareHeader_forget site s
  · exact sendData_forget site s
  · exact sendChunk_forget site s
  all_goals rfl

/-- A call on a recorded socket is the call on the inner one, with the record kept. -/
theorem handle_forget [Socket S] (site : Site) (signal : Signal) (s : Session (Recorded S)) :
    s.forget.handle site signal = ((s.handle site signal).1, (s.handle site signal).2.forget) := by
  cases signal with
  | readable hangup =>
    rw [handle, onReadable, readable_forget, finish_forget]
    rfl
  | writable =>
    rw [handle, onWritable, writable_forget, finish_forget]
    rfl

/-- What a call does to a connection, on any socket. -/
theorem output_onWritable [Sink S] (site : Site) (s : Session S) :
    ∃ w, Connection.Output site (s.engine.waiting = []) s.connection (s.onWritable site).1 w
      (s.onWritable site).2.connection := by
  -- The call is made with an empty record, and the record is dropped again.
  obtain ⟨w, h, -⟩ := ends_writable site s.record
  have heq := writable_forget site s.record
  rw [forget_record] at heq
  refine ⟨w, ?_⟩
  rw [onWritable, finish_fst, finish_connection, heq]
  exact h

/-- A call leaves no completion in the engine where it found none: all connections that
    share an engine find it so. -/
theorem waiting_handle [Socket S] (site : Site) (signal : Signal) {s : Session S}
    (h : s.engine.waiting = []) : (s.handle site signal).2.engine.waiting = [] := by
  cases signal with
  | readable hangup =>
    rw [handle, (onReadable_frame (f := fun _ => ()) (fun _ _ => rfl) site hangup s).1, h]
  | writable =>
    obtain ⟨w, -, -, hq⟩ := ends_writable site s.record
    have heq := writable_forget site s.record
    rw [forget_record] at heq
    rw [handle, onWritable, finish_engine, heq]
    exact hq h

end Session

end FileServer
