import FileServer.Proofs.Connection.Phases

/-!
# Reachable connections

Whatever its handlers are called for, and whatever becomes of the socket, the engine,
the settings and the files in the meantime, a connection

* has in each phase the fields that go with the phase (`Connection.Coherent`),
* moves along the edges from phase to phase and so never comes back to one that it left,
* asks nothing of the engine if nothing was found.

All of this is `World.Reached.coherent_moves`. It rests on the order that each call preserves
(`Connection.InOrder`) and on the trail that each call leaves (`Session.Follows`).
-/

namespace FileServer

variable {S : Type}

/-- The fields of a connection go with its phase. -/
structure Connection.Coherent (c : Connection) : Prop where
  /-- A document is about to be announced. -/
  sendingHeader : c.phase = .sendingHeader →
    c.status = .ok ∧ c.file.isSome ∧ (c.resource = .static ∨ c.resource = .dynamic)
  /-- A response that nothing was found has no chunks, whatever was asked for. -/
  notFound : c.status = .notFound →
    c.chunks = 0 ∧ (c.phase = .sendingData ∨ c.phase = .notFoundSent)
  /-- Only the body of a dynamic document is moved in chunks, behind the header. -/
  movingChunks : c.phase = .movingChunks → c.status = .ok ∧ c.resource = .dynamic ∧
    c.file.isSome ∧ c.header.remaining = 0 ∧ 0 < c.body.remaining
  /-- The document is out. -/
  dataSent : c.phase = .dataSent → c.status = .ok ∧ c.header.remaining = 0 ∧
    c.body.remaining = 0 ∧ c.body.offset = c.bodyLength ∧ 0 < c.bodyLength
  /-- The header of an empty document is out. -/
  headerSent : c.phase = .headerSent → c.status = .ok ∧ c.header.remaining = 0 ∧
    c.body.remaining = 0 ∧ c.body.offset = 0 ∧ c.bodyLength = 0
  /-- The response that nothing was found is out. -/
  notFoundSent : c.phase = .notFoundSent → c.status = .notFound ∧ c.header.remaining = 0 ∧
    c.body.remaining = 0 ∧ c.body.offset = c.bodyLength
  /-- Handlers never close a connection themselves. -/
  notClosed : c.phase ≠ .closed

namespace Connection

variable {c c' : Connection}

/-- A connection that found nothing is sending the response or has sent it. -/
theorem InOrder.notFound (hc : c.InOrder) (hs : c.status = .notFound) :
    c.chunks = 0 ∧ (c.phase = .sendingData ∨ c.phase = .notFoundSent) := by
  have hok : c.status ≠ .ok := by simp [hs]
  rw [InOrder] at hc
  split at hc
  iterate 4 exact absurd hc.1.status hok
  · exact absurd hc.1.status hok
  · exact ⟨hc.2.1, .inl ‹_›⟩
  · exact absurd hc.2.1 hok
  · exact absurd hc.2.1 hok
  · exact absurd hc.2.1 hok
  · exact ⟨hc.2.2, .inr ‹_›⟩
  · exact hc.elim

/-- In order, the fields go with the phase. -/
theorem InOrder.coherent (hc : c.InOrder) : c.Coherent where
  sendingHeader hp := by
    rw [InOrder, hp] at hc
    obtain ⟨hu, hfile, hres⟩ := hc
    refine ⟨hu.status, hfile, ?_⟩
    cases hr : c.resource with
    | static => exact .inl rfl
    | dynamic => exact .inr rfl
    | unserved => exact absurd hr hres
  notFound := hc.notFound
  movingChunks hp := by
    rw [InOrder, hp] at hc
    exact hc.2
  dataSent hp := by
    rw [InOrder, hp] at hc
    obtain ⟨hd, hs, hlen⟩ := hc
    exact ⟨hs, hd.header_out, hd.body_out, hd.offset_eq, hlen⟩
  headerSent hp := by
    rw [InOrder, hp] at hc
    obtain ⟨hd, hs, hlen⟩ := hc
    exact ⟨hs, hd.header_out, hd.body_out, hd.offset_eq.trans hlen, hlen⟩
  notFoundSent hp := by
    rw [InOrder, hp] at hc
    obtain ⟨hd, hs, -⟩ := hc
    exact ⟨hs, hd.header_out, hd.body_out, hd.offset_eq⟩
  notClosed hp := by
    rw [InOrder, hp] at hc
    exact hc

/-- To move chunks leaves the status as it is. -/
theorem Output.status_eq {site : Site} {quiet : Prop} {next : Next} {w : Bytes}
    (h : Output site quiet c next w c') (hp : c.phase = .movingChunks) : c'.status = c.status := by
  cases h <;> first | rfl | simp_all

end Connection

namespace Session

variable [Socket S] {site : Site} {s : Session S}

/-- A call that leaves a connection that found nothing asked nothing of the engine. -/
theorem handle_engine {signal : Signal} (hc : s.connection.InOrder)
    (h : (s.handle site signal).2.connection.status = .notFound) :
    (s.handle site signal).2.engine = s.engine := by
  cases signal with
  | readable hangup =>
    exact (onReadable_frame (f := fun _ => ()) (fun _ _ => rfl) site hangup s).1
  | writable =>
    rw [handle, onWritable, finish_engine]
    refine writable_engine fun hp => ?_
    obtain ⟨w, ho⟩ := output_onWritable site s
    rw [Connection.InOrder, hp] at hc
    rw [handle, ho.status_eq hp, hc.2.1] at h
    cases h

end Session

namespace World

variable [Socket S] {world : World S} {next : Next} {s : Session S}

/-- No call leads back. -/
theorem Later.rank_le {m m' : Next × Session S} (hc : m.2.connection.InOrder)
    (h : world.Later m m') : m.2.connection.phase = m'.2.connection.phase ∨
      m.2.connection.phase.rank < m'.2.connection.phase.rank := by
  refine (h.preserves (motive := fun _ t => t.connection.InOrder ∧
    (m.2.connection.phase = t.connection.phase ∨
      m.2.connection.phase.rank < t.connection.phase.rank)) ?_ ⟨hc, .inl rfl⟩).2
  intro next t t' site signal _ he _ ih
  rw [← he.connection] at ih
  -- The trail of the call goes up from where the earlier calls came.
  obtain ⟨notes, -, htrail⟩ := Session.follows_handle site signal ih.1
  refine ⟨Session.inOrder_handle signal ih.1, ?_⟩
  rcases htrail.rank_lt with hq | hq
  · rw [← hq]
    exact ih.2
  · rcases ih.2 with hp | hp
    · exact .inr (hp ▸ hq)
    · exact .inr (Nat.lt_trans hp hq)

/-- The fields of a connection that is reached go with its phase; each call moves it
    along the edges and asks nothing of the engine if nothing was found; and a phase
    that it left is not entered again. -/
theorem Reached.coherent_moves (h : world.Reached (next, s)) :
    s.connection.Coherent ∧
    (∀ {s' : Session S} {site : Site} (signal : Signal), next ≠ .close → world.Elapses s s' →
      world.sites site → s'.Follows (s'.handle site signal).2 ∧
        ((s'.handle site signal).2.connection.status = .notFound →
          (s'.handle site signal).2.engine = s'.engine)) ∧
    ∀ {m m' : Next × Session S}, world.Later (next, s) m → world.Later m m' →
      m.2.connection.phase ≠ s.connection.phase → m'.2.connection.phase ≠ s.connection.phase := by
  refine ⟨h.inOrder.coherent, ?_, ?_⟩
  · intro s' site signal _ he _
    have hc : s'.connection.InOrder := he.connection ▸ h.inOrder
    exact ⟨Session.follows_handle site signal hc, Session.handle_engine hc⟩
  · intro m m' hm hm' hleft hback
    rcases Later.rank_le h.inOrder hm with heq | hlt
    · exact hleft heq.symm
    · rcases Later.rank_le (h.later hm).inOrder hm' with heq' | hlt'
      · exact hleft (heq'.trans hback)
      · rw [hback] at hlt'
        exact Nat.lt_irrefl _ (Nat.lt_trans hlt hlt')

/-- A page is announced and then changed; what is sent of it goes without chunks. -/
theorem coherent_moves_announced :
    (anything (Recorded Duplex)).Reached Visit.announced ∧
      Visit.announced.2.connection.status = .notFound ∧
      Visit.announced.2.connection.chunks = 0 ∧
      Visit.announced.2.Follows (Visit.announced.2.handle (Visit.site []) .writable).2 := by
  have h : (anything (Recorded Duplex)).Reached (Visit.announced.1, Visit.announced.2) :=
    Visit.reached_announced trivial (fun _ => trivial) trivial trivial
  have hstatus : Visit.announced.2.connection.status = .notFound := by
    rw [Visit.announced_eq]
    rfl
  obtain ⟨hcoherent, hcall, -⟩ := Reached.coherent_moves h
  refine ⟨h, hstatus, (hcoherent.notFound hstatus).1, ?_⟩
  exact (hcall .writable Visit.announced_next ⟨rfl, trivial, trivial⟩ trivial).1

end World

end FileServer
