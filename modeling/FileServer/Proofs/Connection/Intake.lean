import FileServer.Proofs.Connection.Run

/-!
# What readability does

All that a call can do to a connection that is told that its socket can be read:
it receives bytes, and then it has the request, or it goes on waiting, or it gives up;
or it has the request already and does nothing (`Connection.Intake`). That it does
nothing else is said in `Session.intake_readable`.
-/

namespace FileServer

variable {S : Type}

/-- What readability does to a connection, and what it wants then. -/
inductive Connection.Intake (c : Connection) : Next → Connection → Prop
  /-- Bytes come in, and more are waited for or the request is given up. -/
  | receives {next : Next} (bytes : Bytes) : c.phase = .initial ∨ c.phase = .receiving →
      next ≠ .write →
      Intake c next { c with received := c.received ++ bytes, phase := .receiving }
  /-- Bytes come in, and the request is there. -/
  | completes (bytes : Bytes) : c.phase = .initial ∨ c.phase = .receiving →
      Intake c .write { c with received := c.received ++ bytes, phase := .requestReceived }
  /-- The request is there already. -/
  | ignores {next : Next} : c.phase ≠ .initial → c.phase ≠ .receiving → next ≠ .read →
      Intake c next c

namespace Session

variable [Socket S]

open Connection

/-- To receive is to add bytes to those received, and perhaps to have the request. -/
theorem receive_connection (limit : Nat) (s : Session S) :
    ∃ bytes, ((s.receive limit).1 = .ok .write ∧ (s.receive limit).2.connection =
        { s.connection with
          received := s.connection.received ++ bytes, phase := .requestReceived }) ∨
      (wish (s.receive limit).1 ≠ .write ∧ (s.receive limit).2.connection =
        { s.connection with received := s.connection.received ++ bytes }) := by
  -- Only where bytes come without a blank line, or the read is interrupted, there is a
  -- further round.
  fun_induction receive limit s with
  | case1 s before h =>
    exact ⟨[], .inl ⟨rfl, by simp⟩⟩
  | case2 s before h socket hr =>
    exact ⟨[], .inr ⟨by simp [wish], by simp⟩⟩
  | case3 s before h b bs socket hr s' hb =>
    exact ⟨b :: bs, .inl ⟨rfl, by simp [s', append]⟩⟩
  | case4 s before h b bs socket hr s' hb ih =>
    obtain ⟨bytes, ih⟩ := ih
    refine ⟨b :: bs ++ bytes, ?_⟩
    rw [← List.append_assoc]
    exact ih
  | case5 s before h socket hr ih => exact ih
  | case6 s before h socket hr =>
    exact ⟨[], .inr ⟨by simp [wish], by simp⟩⟩
  | case7 s before h e socket hr =>
    exact ⟨[], .inr ⟨by simp [wish], by simp⟩⟩

/-- To receive leaves the engine alone, and of the socket what reading from it leaves
    alone. -/
theorem receive_frame {α : Type} {f : S → α}
    (hf : ∀ s n, f (Socket.receive s n).2 = f s) (limit : Nat) (s : Session S) :
    (s.receive limit).2.engine = s.engine ∧ f (s.receive limit).2.socket = f s.socket := by
  have hf' : ∀ {s s' n r}, Socket.receive s n = (r, s') → f s' = f s := fun {s s' n r} h => by
    rw [← hf s n, h]
  fun_induction receive limit s with
  | case1 s before h => exact ⟨rfl, rfl⟩
  | case2 s before h socket hr => exact ⟨rfl, hf' hr⟩
  | case3 s before h b bs socket hr s' hb => exact ⟨rfl, hf' hr⟩
  | case4 s before h b bs socket hr s' hb ih => exact ⟨ih.1, ih.2.trans (hf' hr)⟩
  | case5 s before h socket hr ih => exact ⟨ih.1, ih.2.trans (hf' hr)⟩
  | case6 s before h socket hr => exact ⟨rfl, hf' hr⟩
  | case7 s before h e socket hr => exact ⟨rfl, hf' hr⟩

/-- Readability does what `Connection.Intake` allows. -/
theorem intake_readable (site : Site) (hangup : Bool) (s : Session S) :
    Intake s.connection (s.onReadable site hangup).1 (s.onReadable site hangup).2.connection := by
  rw [onReadable, finish_fst, finish_connection, readable]
  split
  · -- The first bytes are received in the phase that is entered for it.
    rename_i hp
    rcases receive_connection site.settings.maxRequestSize (s.enter .receiving) with
      ⟨bytes, ⟨hw, hc⟩ | ⟨hw, hc⟩⟩
    · rw [hw, hc]
      exact .completes bytes (.inl hp)
    · rw [hc]
      exact .receives bytes (.inl hp) hw
  · -- More is received.
    rename_i hp
    rcases receive_connection site.settings.maxRequestSize s with ⟨bytes, ⟨hw, hc⟩ | ⟨hw, hc⟩⟩
    · rw [hw, hc]
      exact .completes bytes (.inr hp)
    · have h : Intake s.connection _ _ := .receives bytes (.inr hp) hw
      rw [hc]
      rwa [← hp] at h
  · rename_i hp
    exact .ignores (by simp [hp]) (by simp [hp]) (by simp [wish])
  · -- In the phases behind the request nothing is received, whether the peer hung up or not.
    rename_i hi hr hc
    split
    · exact .ignores hi hr (by simp [wish])
    · exact .ignores hi hr (by simp [wish])

/-- Readability leaves the engine alone, and of the socket what reading from it leaves
    alone. -/
theorem onReadable_frame {α : Type} {f : S → α}
    (hf : ∀ s n, f (Socket.receive s n).2 = f s) (site : Site) (hangup : Bool) (s : Session S) :
    (s.onReadable site hangup).2.engine = s.engine ∧
      f (s.onReadable site hangup).2.socket = f s.socket := by
  rw [onReadable, finish_engine, finish_socket, readable]
  split
  · exact receive_frame hf _ (s.enter .receiving)
  · exact receive_frame hf _ s
  · exact ⟨rfl, rfl⟩
  · split
    · exact ⟨rfl, rfl⟩
    · exact ⟨rfl, rfl⟩

end Session

end FileServer
