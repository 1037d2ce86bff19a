import FileServer.Settings

/-!
# Settings that make sense

What `Settings.check` makes sure of, as one statement about the settings that it accepts
(`Settings.Valid`, `Settings.valid_of_check`). The settings that nobody has said anything
about are among them.
-/

namespace FileServer.Settings

/-- Settings that make sense. -/
structure Valid (s : Settings) : Prop where
  address : ∃ ip, s.address = .ok ip
  chunkSize : s.chunkSize ≠ 0
  maxRequestSize : s.maxRequestSize ≠ 0
  inFlight : s.inFlight ≠ 0
  static : isSingleName s.staticFolder.toList = true
  dynamic : isSingleName s.dynamicFolder.toList = true
  differ : s.staticFolder ≠ s.dynamicFolder

/-- What comes behind a guard that was passed. -/
theorem of_guard {ε α : Type} {p : Prop} [Decidable p] {e : ε} {x : Except ε α} {a : α}
    (h : (if p then .error e else x) = .ok a) : ¬p ∧ x = .ok a := by
  split at h
  · cases h
  · exact ⟨‹_›, h⟩

/-- Settings that are accepted make sense. -/
theorem valid_of_check {s : Settings} (h : s.check = .ok ()) : s.Valid := by
  simp only [check, bind, Except.bind, throw, throwThe, MonadExceptOf.throw] at h
  split at h
  · cases h
  rename_i ip haddress
  obtain ⟨hchunk, h⟩ := of_guard h
  obtain ⟨hrequest, h⟩ := of_guard h
  obtain ⟨hflight, h⟩ := of_guard h
  obtain ⟨hstatic, h⟩ := of_guard h
  obtain ⟨hdynamic, h⟩ := of_guard h
  obtain ⟨hdiffer, -⟩ := of_guard h
  exact ⟨⟨ip, haddress⟩, hchunk, hrequest, hflight, by simpa using hstatic, by simpa using hdynamic,
    hdiffer⟩

/-- One size of chunks is as good as another, if neither is zero. -/
theorem check_chunkSize {s : Settings} {size : Nat} (hsize : size ≠ 0) (h : s.chunkSize ≠ 0) :
    { s with chunkSize := size }.check = s.check := by
  have haddress : { s with chunkSize := size }.address = s.address := rfl
  rw [check, check, haddress, if_neg hsize, if_neg h]

/-- Who listens where the operator says nothing listens everywhere. -/
theorem address_of_default {s : Settings} (h : s.listenAddress = listenAddress {}) :
    s.address = .ok ⟨0, 0, 0, 0⟩ := by
  have hip : Ipv4.ofString? (listenAddress {}) = some ⟨0, 0, 0, 0⟩ := by decide +kernel
  rw [address, h, hip]

theorem address_default : address {} = .ok ⟨0, 0, 0, 0⟩ := address_of_default rfl

/-- Without a word from the operator the settings make sense. -/
theorem check_default : check {} = .ok () := by
  rw [check, address_default]
  rfl

end FileServer.Settings
