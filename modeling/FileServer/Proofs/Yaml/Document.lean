import FileServer.Proofs.Yaml.Tokens

/-!
# The document of lines

Lines become a document: their tokens are walked into events (`Event.ofTokens_lines`), and the
events are put together as the pieces of one mapping, which are the names and scalars of the lines
in their order (`Document.ofText_lines`).
-/

namespace FileServer.Yaml

/-- The scalars of a pair, its name first. -/
def Pair.scalars (p : Pair) : List Scalar := [⟨p.name, .plain, none⟩, p.value]

/-- The event of a scalar without properties. -/
def Scalar.eventKind (s : Scalar) : EventKind := .scalar {} s.text s.style

namespace Walking

variable {fault : Option Fault} {rules : List (List Char × Bytes)} {ts us : List Token}
  {es : List Event} {fuel : Nat}

/-- A walk that meets no mistake is followed by the next one. -/
theorem run_bind {α β : Type} {x : Walking α} {f : α → Walking β} {w w' : Walk} {a : α}
    (h : x.run w = (.ok a, w')) : (x >>= f).run w = (f a).run w' := by
  change (ExceptT.bindCont f (x.run w).1) (x.run w).2 = _
  rw [h]
  rfl

/-- A name and its scalar become two events. -/
theorem blockPairs_pair {start : Mark} {key name value scalar : Token} {n v : List Char}
    {style : ScalarStyle} (hkey : key.kind = .key) (hname : name.kind = .scalar n .plain)
    (hvalue : value.kind = .value) (hscalar : scalar.kind = .scalar v style) :
    (blockPairs start (fuel + 3)).run ⟨key :: name :: value :: scalar :: ts, fault, es, rules⟩ =
      (blockPairs start (fuel + 2)).run ⟨ts, fault,
        ⟨.scalar {} v style, scalar.start⟩ :: ⟨.scalar {} n .plain, name.start⟩ :: es, rules⟩ := by
  obtain ⟨_, _, _⟩ := key
  obtain ⟨_, _, _⟩ := name
  obtain ⟨_, _, _⟩ := value
  obtain ⟨_, _, _⟩ := scalar
  subst hkey hname hvalue hscalar
  rfl

/-- The lines become the events of their scalars, up to the end of the mapping. -/
theorem blockPairs_lines (start : Mark) (es : List Event) {ps : List Pair}
    (hkinds : ts.map Token.kind = ps.flatMap Pair.tokenKinds) {last : Token}
    (hlast : last.kind = .blockEnd) :
    ∃ new : List Event, new.map Event.kind =
        (ps.flatMap Pair.scalars).map Scalar.eventKind ++ [.mappingEnd] ∧
      (blockPairs start (fuel + ps.length + 3)).run ⟨ts ++ last :: us, fault, es, rules⟩ =
        (.ok (), ⟨us, fault, new.reverse ++ es, rules⟩) := by
  induction ps generalizing ts es with
  | nil =>
    obtain rfl := List.map_eq_nil_iff.1 hkinds
    obtain ⟨_, place, _⟩ := last
    subst hlast
    exact ⟨[⟨.mappingEnd, place⟩], rfl, rfl⟩
  | cons p ps ih =>
    -- The tokens are the four of the first line, and those of the others.
    rw [List.flatMap_cons, Pair.tokenKinds, List.map_eq_append_iff] at hkinds
    obtain ⟨head, ts, rfl, hhead, hts⟩ := hkinds
    simp only [List.map_eq_cons_iff, List.map_eq_nil_iff] at hhead
    obtain ⟨key, _, rfl, hkey, name, _, rfl, hname, value, _, rfl, hvalue, scalar, _, rfl, hscalar,
      rfl⟩ := hhead
    obtain ⟨new, hnew, hrun⟩ := ih (⟨.scalar {} p.value.text p.value.style, scalar.start⟩ ::
      ⟨.scalar {} p.name .plain, name.start⟩ :: es) hts
    refine ⟨⟨.scalar {} p.name .plain, name.start⟩ ::
      ⟨.scalar {} p.value.text p.value.style, scalar.start⟩ :: new, ?_, ?_⟩
    · rw [List.map_cons, List.map_cons, hnew]
      rfl
    · refine (blockPairs_pair hkey hname hvalue hscalar).trans (hrun.trans ?_)
      simp

/-- A stream of lines is one document, and that is a mapping of their scalars. -/
theorem stream_lines (fuel : Nat) {ps : List Pair} {start mapping last stop : Token}
    (hstart : start.kind = .streamStart) (hmapping : mapping.kind = .blockMappingStart)
    (hkinds : ts.map Token.kind = ps.flatMap Pair.tokenKinds) (hlast : last.kind = .blockEnd)
    (hstop : stop.kind = .streamEnd) :
    ∃ w : Walk, (stream (fuel + ps.length + 5)).run
        ⟨start :: mapping :: (ts ++ [last, stop]), none, [], []⟩ = (.ok (), w) ∧
      w.events.reverse.map Event.kind = [.streamStart, .documentStart, .mappingStart {}] ++
        (ps.flatMap Pair.scalars).map Scalar.eventKind ++
          [.mappingEnd, .documentEnd, .streamEnd] := by
  obtain ⟨_, m, _⟩ := start
  obtain ⟨_, n, _⟩ := mapping
  obtain ⟨_, o, o'⟩ := stop
  subst hstart hmapping hstop
  let before : List Event := [⟨.mappingStart {}, n⟩, ⟨.documentStart, n⟩, ⟨.streamStart, m⟩]
  obtain ⟨new, hnew, hrun⟩ : ∃ new : List Event, new.map Event.kind =
        (ps.flatMap Pair.scalars).map Scalar.eventKind ++ [.mappingEnd] ∧
      (blockPairs n (fuel + ps.length + 3)).run
          ⟨ts ++ last :: [⟨.streamEnd, o, o'⟩], none, before, standardRules⟩ =
        (.ok (), ⟨[⟨.streamEnd, o, o'⟩], none, new.reverse ++ before, standardRules⟩) :=
    blockPairs_lines n before hkinds hlast
  -- What is done behind the mapping: the document ends, and behind it the stream.
  have hbehind := run_bind (f := fun _ => do
    let t ← peek
    if t.kind = .documentEnd then skip
    emit .documentEnd t.start
    documents false (fuel + ps.length + 4)) hrun
  refine ⟨⟨[], none, ⟨.streamEnd, o⟩ :: ⟨.documentEnd, o⟩ :: (new.reverse ++ before), []⟩,
    hbehind, ?_⟩
  simp only [List.reverse_cons, List.reverse_append, List.reverse_reverse, List.map_append, hnew]
  simp [before]

end Walking

/-- The events of lines. -/
theorem Event.ofTokens_lines {ps : List Pair} {ts : List Token}
    (hkinds : ts.map Token.kind = [.streamStart, .blockMappingStart] ++
      ps.flatMap Pair.tokenKinds ++ [.blockEnd, .streamEnd]) :
    ∃ es, Event.ofTokens ts none = (es, none) ∧
      es.map Event.kind = [.streamStart, .documentStart, .mappingStart {}] ++
        (ps.flatMap Pair.scalars).map Scalar.eventKind ++
          [.mappingEnd, .documentEnd, .streamEnd] := by
  have hlength : ts.length = 4 * ps.length + 4 := by
    have h := congrArg List.length hkinds
    simp only [List.length_map, List.length_append,
      Pair.length_flatMap (f := Pair.tokenKinds) (n := 4) fun _ => rfl, List.length_cons,
      List.length_nil] at h
    omega
  -- Two tokens open the stream and the mapping, two close them.
  simp only [List.map_eq_append_iff, List.map_eq_cons_iff, List.map_eq_nil_iff] at hkinds
  obtain ⟨_, _, rfl, ⟨_, ts, rfl, ⟨start, _, rfl, hstart, mapping, _, rfl, hmapping, rfl⟩, hts⟩,
    last, _, rfl, hlast, stop, _, rfl, hstop, rfl⟩ := hkinds
  obtain ⟨w, hrun, hw⟩ :=
    Walking.stream_lines (15 * ps.length + 27) hstart hmapping hts hlast hstop
  refine ⟨w.events.reverse, ?_, hw⟩
  have hfuel : 4 * ((start :: mapping :: (ts ++ [last, stop])).length + 4) =
      15 * ps.length + 27 + ps.length + 5 := by
    change (start :: mapping :: (ts ++ [last, stop])).length = _ at hlength
    omega
  rw [Event.ofTokens]
  simp only [List.cons_append, List.nil_append, hfuel, hrun]

namespace Document

/-- Scalars without properties are pieces of their own. -/
theorem assemble_scalars {ss : List Scalar} (hss : ∀ s ∈ ss, s.tag = none) {es : List Event}
    (hes : es.map Event.kind = ss.map Scalar.eventKind) (a : Assembly) (us : List Event) :
    ∃ pieces : List (Piece × Mark), pieces.map Prod.fst = ss.map Piece.scalar ∧
      assemble none a (es ++ us) = assemble none
        { a with pieces := pieces.reverse ++ a.pieces, count := a.count + pieces.length } us := by
  induction ss generalizing es a with
  | nil =>
    obtain rfl := List.map_eq_nil_iff.1 hes
    exact ⟨[], rfl, rfl⟩
  | cons s ss ih =>
    obtain ⟨e, es, rfl, he, hes⟩ := List.map_eq_cons_iff.1 hes
    rw [List.forall_mem_cons] at hss
    obtain ⟨pieces, hpieces, hrun⟩ := ih hss.2 hes (a.add (.scalar s) e.mark)
    refine ⟨(.scalar s, e.mark) :: pieces, by rw [List.map_cons, List.map_cons, hpieces], ?_⟩
    have hadd : assemble none a (e :: es ++ us) =
        assemble none (a.add (.scalar s) e.mark) (es ++ us) := by
      obtain ⟨text, style, tag⟩ := s
      obtain rfl : tag = none := hss.1
      rw [List.cons_append, assemble, he]
      rfl
    rw [hadd, hrun, List.reverse_cons, List.append_assoc, List.length_cons,
      Nat.add_comm pieces.length, ← Nat.add_assoc]
    rfl

theorem badOffset?_eq_none {cs : List Char} (hcs : ∀ c ∈ cs, isAllowed c = true) (offset : Nat) :
    badOffset? offset cs = none := by
  induction cs generalizing offset with
  | nil => rfl
  | cons c cs ih =>
    rw [List.forall_mem_cons] at hcs
    rw [badOffset?, if_pos hcs.1, ih hcs.2]

/-- The document of lines: a mapping of their scalars. -/
theorem ofText_lines {ps : List Pair} (hne : ps ≠ []) (hps : ∀ p ∈ ps, p.FitsLine)
    (hreach : ∀ p ∈ ps, p.name.length ≤ Lexer.keyReach) (ended : Bool) :
    ∃ pieces, ofText (String.ofList (linesText ended ps)) = { pieces := pieces } ∧
      pieces.map Prod.fst =
        .mappingStart :: (ps.flatMap Pair.scalars).map Piece.scalar ++ [.mappingEnd] := by
  obtain ⟨ts, htokens, hts⟩ := Lexer.tokens_lines hne hps hreach ended
  obtain ⟨es, hevents, hes⟩ := Event.ofTokens_lines hts
  have htags : ∀ s ∈ ps.flatMap Pair.scalars, s.tag = none := by
    intro s hs
    obtain ⟨p, hp, hs⟩ := List.mem_flatMap.1 hs
    rw [Pair.scalars, List.mem_cons, List.mem_singleton] at hs
    rcases hs with rfl | rfl
    · rfl
    · exact (hps p hp).value.tag_eq
  -- Three events stand in front of those of the scalars, and three behind them.
  simp only [List.map_eq_append_iff, List.map_eq_cons_iff, List.map_eq_nil_iff] at hes
  obtain ⟨_, _, rfl, ⟨_, es, rfl, ⟨e₁, _, rfl, he₁, e₂, _, rfl, he₂, e₃, _, rfl, he₃, rfl⟩, hes⟩,
    e₄, _, rfl, he₄, e₅, _, rfl, he₅, e₆, _, rfl, he₆, rfl⟩ := hes
  obtain ⟨pieces, hpieces, hassemble⟩ := assemble_scalars htags hes
    (({} : Assembly).add .mappingStart e₃.mark) [e₄, e₅, e₆]
  refine ⟨(.mappingStart, e₃.mark) :: (pieces ++ [(.mappingEnd, e₄.mark)]), ?_, ?_⟩
  · rw [ofText, String.toList_ofList, badOffset?_eq_none (isAllowed_linesText hps)]
    simp only [htokens, hevents]
    have hbefore : assemble none {} ([e₁, e₂, e₃] ++ es ++ [e₄, e₅, e₆]) =
        assemble none (({} : Assembly).add .mappingStart e₃.mark) (es ++ [e₄, e₅, e₆]) := by
      simp only [List.cons_append, List.nil_append, assemble, he₁, he₂, he₃]
      rfl
    rw [hbefore, hassemble]
    simp [assemble, he₄, he₅, he₆, Assembly.add, Assembly.finish]
  · simp [hpieces]

end Document

end FileServer.Yaml
