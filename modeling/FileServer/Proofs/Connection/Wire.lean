import FileServer.Proofs.Connection.Order

/-!
# What is on the socket

The bytes that a connection has put on its socket are a part of its header and, behind
all of the header, a body (`Connection.Wire`). A call adds to the body what the open
file holds at the position, and moves the position by just as much. There is one
exception: of a chunk that was read, a part may go out although the write is reported as
failed or cut short. That part is not counted, and the connection is to be closed
(`Connection.Overruns`).

`Session.carries_handle` says so of every call.
-/

namespace FileServer

variable {S : Type}

namespace Connection

/-- The part of the header that was taken is on the socket, and behind all of it a
    body. -/
structure Wire (c : Connection) (sent body : Bytes) : Prop where
  sent_eq : sent = c.header.content.take c.header.written ++ body
  behind : body = [] ∨ c.header.remaining = 0

/-- A part of a chunk is out that is not counted, and the connection is to be closed. -/
structure Overruns (site : Site) (c c' : Connection) (next : Next) (more : Bytes) : Prop where
  phase : c.phase = .movingChunks
  stays : c'.phase = .movingChunks
  closes : next = .close
  header : c'.header = c.header
  body : c'.body = c.body
  ne_nil : more ≠ []
  short : more.length < c.chunkLength site

variable {site : Site} {quiet : Prop} {next : Next} {w sent body more : Bytes}
  {c c' : Connection}

/-- What was put behind a part of the header is the body. -/
theorem Wire.drop_eq (h : c.Wire sent body) : sent.drop c.header.content.length = body := by
  rcases h.behind with hb | hr
  · rw [h.sent_eq, hb, List.append_nil, List.drop_eq_nil_iff]
    exact List.length_take_le' _ _
  · have hle : c.header.content.length ≤ c.header.written := Nat.le_of_sub_eq_zero hr
    rw [h.sent_eq, List.take_of_length_le hle, List.drop_left]

theorem Wire.congr (h : c.Wire sent body) (hc : c'.header = c.header) : c'.Wire sent body :=
  ⟨hc ▸ h.sent_eq, hc ▸ h.behind⟩

/-- Behind all of the header, what is sent is body. -/
theorem Wire.append (h : c.Wire sent body) (hr : c.header.remaining = 0) :
    c.Wire (sent ++ more) (body ++ more) :=
  ⟨by rw [h.sent_eq, List.append_assoc], .inr hr⟩

/-- As long as a part of the header is left, what is sent is header. -/
theorem Wire.passHeaderPart (h : c.Wire sent body) {k : Nat} (hk : k < c.header.remaining) :
    (c.passHeader k).Wire (sent ++ c.header.rest.take k) body := by
  have hb : body = [] := h.behind.resolve_right (Nat.ne_of_gt (Nat.zero_lt_of_lt hk))
  refine ⟨?_, .inl hb⟩
  rw [h.sent_eq, hb, List.append_nil, List.append_nil, passHeader, SendBuffer.content_advance,
    SendBuffer.written_advance, SendBuffer.take_written_advance]

/-- The rest of the header goes out. -/
theorem Wire.passHeader (h : c.Wire sent body) :
    (c.passHeader c.header.remaining).Wire (sent ++ c.header.rest) body := by
  refine ⟨?_, .inr (by simp [Connection.passHeader])⟩
  rw [Connection.passHeader, SendBuffer.content_advance, SendBuffer.written_advance,
    SendBuffer.take_written_advance, ← SendBuffer.length_rest, List.take_length, h.sent_eq]
  rcases h.behind with hb | hr
  · rw [hb, List.append_nil, List.append_nil]
  · have hrest : c.header.rest = [] :=
      List.eq_nil_of_length_eq_zero (by rw [SendBuffer.length_rest, hr])
    rw [hrest, List.append_nil, List.append_nil]

/-- With nothing on the socket a header is announced behind nothing. -/
theorem Wire.announce (h : c.Wire sent []) (hu : c.header = {}) {header : ResponseHeader} :
    (c.announce header).Wire sent [] := by
  refine ⟨?_, .inl rfl⟩
  rw [h.sent_eq, hu]
  rfl

/-- A call leaves a connection with bytes on the socket: it has added to the body what
    the open file holds at the position, and counted it, if no part of a chunk is out that
    is not counted. -/
def Carries (site : Site) (c c' : Connection) (next : Next) (sent body : Bytes) : Prop :=
  ∃ more, c'.Wire sent (body ++ more) ∧ more <+: (c.backing site).drop c.body.offset ∧
    (c'.body.offset = c.body.offset + more.length ∨ Overruns site c c' next more)

/-- Nothing is added to the body. -/
theorem Carries.of_wire (h : c'.Wire sent body) (hoff : c'.body.offset = c.body.offset) :
    Carries site c c' next sent body :=
  ⟨[], (List.append_nil body).symm ▸ h, List.nil_prefix, .inl hoff⟩

/-- A range of the file is added to the body, and counted. -/
theorem Carries.of_slice {k : Nat}
    (h : c'.Wire sent (body ++ FileBody.slice (c.backing site) c.body.offset k))
    (hlen : (FileBody.slice (c.backing site) c.body.offset k).length = k)
    (hoff : c'.body.offset = c.body.offset + k) : Carries site c c' next sent body :=
  ⟨_, h, FileBody.slice_prefix _ _ _, .inl (by rw [hlen, hoff])⟩

/-- Writability adds to the body what the open file holds at the position, and counts
    it. -/
theorem Output.carries (h : Output site quiet c next w c') (hq : quiet) (hc : c.InOrder)
    (hw : c.Wire sent body) (hlen : body.length = c.body.offset) :
    Carries site c c' next (sent ++ w) body := by
  have hsilent : ∀ {d : Connection} {next : Next}, d.header = c.header → d.body = c.body →
      Carries site c d next (sent ++ []) body := fun hh hb => by
    rw [List.append_nil]
    exact .of_wire (hw.congr hh) (by rw [hb])
  -- Before the header is prepared nothing is on the socket.
  have hannounce : ∀ {d : Connection} {header : ResponseHeader}, c.Unanswered →
      d.header = c.header → Carries site c (d.announce header) .write (sent ++ []) body :=
    fun hu hd => by
      rw [hu.body] at hlen
      have hb : body = [] := List.eq_nil_of_length_eq_zero hlen
      rw [hb] at hw ⊢
      rw [List.append_nil]
      exact .of_wire ((hw.congr hd).announce (hd.trans hu.header)) (by rw [hu.body]; rfl)
  cases h with
  | early | late | loses | finds | misses => exact hsilent rfl rfl
  | announcesPage hp | announcesNothing hp | announcesDocument hp | announcesNoDocument hp =>
    rw [InOrder, hp] at hc
    exact hannounce hc.1 rfl
  | sendsHeaderPart hp hk => exact .of_wire (hw.passHeaderPart hk) rfl
  | sendsHeader => exact .of_wire (hw.passHeader.congr rfl) rfl
  | sendsBodyPart hp hd hk hlenk =>
    refine .of_slice ?_ hlenk rfl
    rw [← List.append_assoc]
    exact (hw.passHeader.append (by simp [Connection.passHeader])).congr rfl
  | sendsBody hp hd hrem hlenk =>
    refine .of_slice ?_ hlenk rfl
    rw [← List.append_assoc]
    exact (hw.passHeader.append (by simp [Connection.passHeader])).congr rfl
  | turnsToChunks => exact .of_wire (hw.passHeader.congr rfl) rfl
  | movesChunk chunk hp hfile hbytes =>
    rw [InOrder, hp] at hc
    obtain ⟨rfl, hlenk⟩ := hbytes hq
    exact .of_slice ((hw.append hc.2.2.2.2.1).congr rfl) hlenk rfl
  | losesChunk chunk hp hbytes =>
    rw [InOrder, hp] at hc
    obtain ⟨hpre, hshort⟩ := hbytes hq
    -- The position stays, so what went out of the chunk is not counted.
    refine ⟨w, (hw.append hc.2.2.2.2.1).congr rfl, hpre.trans (FileBody.slice_prefix _ _ _), ?_⟩
    by_cases hnil : w = []
    · rw [hnil]
      exact .inl rfl
    · exact .inr ⟨hp, hp, rfl, rfl, rfl, hnil, hshort.resolve_left hnil⟩
  | movesNothing => exact hsilent rfl rfl

/-- Readability leaves the header and the body alone. -/
theorem Intake.frame (h : Intake c next c') :
    c'.header = c.header ∧ c'.body = c.body ∧ c'.file = c.file ∧ c'.status = c.status ∧
      c'.bodyLength = c.bodyLength := by
  cases h <;> exact ⟨rfl, rfl, rfl, rfl, rfl⟩

end Connection

namespace Session

open Connection

/-- A call adds to the body what the open file holds at the position, and counts it,
    unless the write of a chunk fails. -/
theorem carries_handle [Socket S] (site : Site) (signal : Signal) {s : Session (Recorded S)}
    {body : Bytes} (hq : s.engine.waiting = []) (hc : s.connection.InOrder)
    (hw : s.connection.Wire s.socket.sent body) (hlen : body.length = s.connection.body.offset) :
    Carries site s.connection (s.handle site signal).2.connection (s.handle site signal).1
      (s.handle site signal).2.socket.sent body := by
  cases signal with
  | readable hangup =>
    have hsent : (s.onReadable site hangup).2.socket.sent = s.socket.sent :=
      (onReadable_frame Recorded.sent_receive site hangup s).2
    obtain ⟨hh, hb, -⟩ := (intake_readable site hangup s).frame
    rw [handle, hsent]
    exact .of_wire (hw.congr hh) (by rw [hb])
  | writable =>
    obtain ⟨w, ho, hsent, -⟩ := ends_writable site s
    rw [handle, onWritable, finish_fst, finish_connection, finish_socket, hsent]
    exact ho.carries hq hc hw hlen

end Session

end FileServer
