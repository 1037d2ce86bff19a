import FileServer.Http.Target

/-!
# What targets refer to

A target that begins with two slashes, of either kind, refers to another host first, and only
what stands behind the host is a path. Tabs and line ends do not count in this, for they are
skipped before anything else is looked at. `Target.reference` tells the host, if there is one,
from the path, and `Target.pathChars?_eq` says what becomes of the two: the path is followed and
its escapes are replaced, while the host only has to be well-formed. What that means for a host
does not matter here, so it may be any test, `valid`.

Where no host is named, the path is the whole target up to its query
(`Target.reference_of_not_namesHost`). Hosts were meant to be refused, but only two plain slashes
at the very front are looked for. So a host is passed over in silence exactly where the second
character is a backslash, a tab or a line end (`Target.path_of_reference`).
-/

namespace FileServer.Target

/-- What a target refers to. -/
structure Reference where
  /-- The host in front of the path. -/
  host? : Option (List Char)
  path : List Char
  deriving DecidableEq

/-- Two slashes of either kind stand in front. -/
def namesHost : List Char → Bool
  | c :: d :: _ => isSlash c && isSlash d
  | _ => false

/-- What stands behind the slashes in front of a host: if they are plain, there are just two of
    them. -/
def behindSlashes : List Char → List Char
  | '/' :: '/' :: cs => cs
  | cs => cs.dropWhile isSlash

/-- A character of the host. -/
def isInHost (c : Char) : Bool := !isSlash c && !endsPath c

/-- A text up to its query or its fragment. -/
def withoutQuery (cs : List Char) : List Char := cs.takeWhile fun c => !endsPath c

/-- The host and the path of a target. -/
def reference (target : List Char) : Reference :=
  let text := cleaned target
  if namesHost text then
    let rest := behindSlashes text
    ⟨some (rest.takeWhile isInHost), withoutQuery (rest.dropWhile isInHost)⟩
  else ⟨none, withoutQuery text⟩

/-- The path that is written, with the dots in it followed and the escapes replaced. -/
def spelled? (path : List Char) : Option (List Char) :=
  unescape? (plainPath (pieces (path.drop 1)))

/-! ### Characters in front -/

/-- What shows at the front of a target stays there. -/
theorem cleaned_cons {c : Char} (hc : 0x20 < c.toNat) (cs : List Char) :
    cleaned (c :: cs) = c :: cleaned cs := by
  have hblank : (decide (c.toNat ≤ 0x20)) = false := decide_eq_false (Nat.not_le_of_lt hc)
  have hkeep : (c != '\t' && c != '\n' && c != '\r') = true := by
    simp only [Bool.and_eq_true, bne_iff_ne, ne_eq]
    refine ⟨⟨?_, ?_⟩, ?_⟩ <;> rintro rfl <;> exact absurd hc (by decide)
  have hdrop : (cs.reverse ++ [c]).dropWhile (fun c => decide (c.toNat ≤ 0x20)) =
      cs.reverse.dropWhile (fun c => decide (c.toNat ≤ 0x20)) ++ [c] := by
    rw [List.dropWhile_append, List.dropWhile_cons_of_neg (by simp [hblank])]
    split
    · rename_i hnil
      rw [List.isEmpty_iff.1 hnil, List.nil_append]
    · rfl
  rw [cleaned, List.reverse_cons, hdrop, List.reverse_append, List.reverse_singleton,
    List.singleton_append, List.filter_cons, if_pos hkeep, cleaned]

/-- A slash does not end the path. -/
theorem endsPath_of_isSlash {c : Char} (h : isSlash c = true) : endsPath c = false := by
  rw [isSlash, Bool.or_eq_true, beq_iff_eq, beq_iff_eq] at h
  rcases h with rfl | rfl <;> rfl

theorem withoutQuery_cons_of_isSlash {c : Char} (h : isSlash c = true) (cs : List Char) :
    withoutQuery (c :: cs) = c :: withoutQuery cs :=
  List.takeWhile_cons_of_pos (by rw [endsPath_of_isSlash h]; rfl)

/-- Two slashes in front are two characters more than there are behind all slashes. -/
theorem namesHost_eq (cs : List Char) :
    namesHost cs = !decide (cs.length < (cs.dropWhile isSlash).length + 2) := by
  match cs with
  | [] => rfl
  | [c] => cases hc : isSlash c <;> simp [namesHost, hc]
  | c :: d :: rest =>
    have hle := (List.dropWhile_suffix isSlash (l := rest)).length_le
    cases hc : isSlash c
    · simp [namesHost, hc]
    cases hd : isSlash d
    · simp [namesHost, hc, hd]
    · simp only [namesHost, hc, hd, List.dropWhile_cons_of_pos, List.length_cons, Bool.and_true]
      rw [decide_eq_false (by omega)]
      rfl

/-! ### What is passed over -/

/-- Behind the host there is a slash, or there is no path. -/
theorem withoutQuery_behind (rest : List Char) :
    let after := rest.dropWhile isInHost
    withoutQuery (if after.head?.any isSlash then after.drop 1 else after) =
      (withoutQuery after).drop 1 := by
  intro after
  have hhead := List.head?_dropWhile_not isInHost rest
  rcases hafter : after with _ | ⟨c, cs⟩
  · rfl
  rw [show rest.dropWhile isInHost = c :: cs from hafter] at hhead
  rw [List.head?_cons, Option.any_some]
  cases hc : isSlash c with
  | true => rw [if_pos rfl, withoutQuery_cons_of_isSlash hc, List.drop_one, List.tail_cons,
      List.drop_one, List.tail_cons]
  | false =>
    have hend : endsPath c = true := by
      have hin : isInHost c = false := hhead
      rwa [isInHost, hc, Bool.not_false, Bool.true_and, Bool.not_eq_false'] at hin
    have hnil : withoutQuery (c :: cs) = [] := List.takeWhile_cons_of_neg (by simp [hend])
    rw [if_neg Bool.false_ne_true, hnil]
    rfl

theorem namesHost_iff {text : List Char} : namesHost text = true ↔
    ∃ c d cs, text = c :: d :: cs ∧ isSlash c = true ∧ isSlash d = true := by
  constructor
  · intro h
    rw [namesHost.eq_def] at h
    split at h
    · rename_i c d cs
      exact ⟨c, d, cs, rfl, Bool.and_eq_true_iff.1 h⟩
    · exact absurd h Bool.false_ne_true
  · rintro ⟨c, d, cs, rfl, hc, hd⟩
    exact Bool.and_eq_true_iff.2 ⟨hc, hd⟩

theorem isSlash_iff {c : Char} : isSlash c = true ↔ c = '/' ∨ c = '\\' := by
  rw [isSlash, Bool.or_eq_true, beq_iff_eq, beq_iff_eq]

/-- The host is looked at, and then left out. -/
theorem relative?_eq (valid : List Char → Bool) (text : List Char) : relative? valid text =
    if namesHost text then
      let after := (behindSlashes text).dropWhile isInHost
      if valid ((behindSlashes text).takeWhile isInHost) then
        some (if after.head?.any isSlash then after.drop 1 else after)
      else none
    else some (text.drop 1) := by
  have hbehind (rest : List Char) :
      (if !valid (rest.takeWhile isInHost) then none
        else
          let after := rest.drop (rest.takeWhile isInHost).length
          some (if after.head?.any isSlash then after.drop 1 else after)) =
        (let after := rest.dropWhile isInHost
        if valid (rest.takeWhile isInHost) then
          some (if after.head?.any isSlash then after.drop 1 else after)
        else none) := by
    have hdrop : (rest.takeWhile isInHost ++ rest.dropWhile isInHost).drop
        (rest.takeWhile isInHost).length = rest.dropWhile isInHost := List.drop_left
    rw [List.takeWhile_append_dropWhile] at hdrop
    rw [hdrop]
    cases valid (rest.takeWhile isInHost) <;> rfl
  have hlength := namesHost_eq text
  rw [relative?.eq_def]
  cases hhost : namesHost text with
  | false =>
    rw [hhost, Eq.comm, Bool.not_eq_false', decide_eq_true_eq] at hlength
    exact if_pos hlength
  | true =>
    rw [hhost, Eq.comm, Bool.not_eq_true', decide_eq_false_iff_not] at hlength
    dsimp only
    rw [if_neg hlength, if_pos rfl]
    -- What the slashes are made of decides how many of them are left out.
    obtain ⟨c, d, cs, rfl, hc, hd⟩ := namesHost_iff.1 hhost
    rcases isSlash_iff.1 hc with rfl | rfl <;> rcases isSlash_iff.1 hd with rfl | rfl <;>
      exact hbehind _

/-- The path that is taken out of a target whose host is well-formed. -/
theorem relative?_cleaned (valid : List Char → Bool) {target : List Char}
    (hslash : (cleaned target).head? = some '/') :
    (relative? valid (cleaned target)).map withoutQuery =
      if (reference target).host?.all valid then some ((reference target).path.drop 1)
      else none := by
  obtain ⟨cs, hcs⟩ := List.head?_eq_some_iff.1 hslash
  rw [relative?_eq, reference]
  dsimp only
  cases namesHost (cleaned target) with
  | false =>
    rw [if_neg Bool.false_ne_true, if_neg Bool.false_ne_true, Option.all_none, if_pos rfl,
      Option.map_some, hcs, withoutQuery_cons_of_isSlash rfl]
    rfl
  | true =>
    rw [if_pos rfl, if_pos rfl, Option.all_some]
    cases valid ((behindSlashes (cleaned target)).takeWhile isInHost) with
    | false => rfl
    | true => exact congrArg some (withoutQuery_behind _)

/-- A target has a path if it begins with a slash, though not with two, if its host is
    well-formed, and if the path is. -/
theorem pathChars?_eq (valid : List Char → Bool) (target : List Char) :
    pathChars? valid target =
    if target.head? = some '/' ∧ target[1]? ≠ some '/' ∧
        (reference target).host?.all valid then
      spelled? (reference target).path
    else none := by
  rw [pathChars?.eq_def]
  split
  · -- A target that begins with two plain slashes has none.
    rw [if_neg]
    rintro ⟨-, hplain, -⟩
    exact hplain rfl
  · -- Any other that begins with a slash has the path behind its host, if this is well-formed.
    rename_i cs hplain
    have hsecond : ('/' :: cs)[1]? ≠ some '/' := by
      intro h
      rw [List.getElem?_cons_succ, ← List.head?_eq_getElem?] at h
      obtain ⟨rest, rfl⟩ := List.head?_eq_some_iff.1 h
      exact hplain rest rfl
    have hslash : (cleaned ('/' :: cs)).head? = some '/' := by
      rw [cleaned_cons (by decide)]
      rfl
    have hrel := relative?_cleaned valid hslash
    split
    · rename_i hif
      rw [if_pos hif.2.2] at hrel
      obtain ⟨rest, hrest, hpath⟩ := Option.map_eq_some_iff.1 hrel
      rw [hrest, spelled?, ← hpath]
      rfl
    · rename_i hif
      rw [if_neg fun h => hif ⟨rfl, hsecond, h⟩, Option.map_eq_none_iff] at hrel
      rw [hrel]
      rfl
  · -- One that does not begin with a slash has none.
    rename_i hnot
    rw [if_neg]
    rintro ⟨hslash, -⟩
    obtain ⟨cs, rfl⟩ := List.head?_eq_some_iff.1 hslash
    exact hnot cs rfl

/-! ### Hosts that are passed over -/

/-- A target names a host if it begins with two slashes. -/
theorem reference_of_namesHost {target : List Char} (h : namesHost (cleaned target) = true) :
    (reference target).host? = some ((behindSlashes (cleaned target)).takeWhile isInHost) := by
  rw [reference]
  dsimp only
  rw [if_pos h]

/-- Without a host, the path is the whole target up to its query. -/
theorem reference_of_not_namesHost {target : List Char} (h : namesHost (cleaned target) = false) :
    reference target = ⟨none, withoutQuery (cleaned target)⟩ :=
  if_neg (by rw [h]; exact Bool.false_ne_true)

/-- The first character stays in front unless it is skipped. -/
theorem head?_cleaned {c d : Char} {cs : List Char} (h : (cleaned (c :: cs)).head? = some d) :
    d = c ∨ c ∈ ['\t', '\n', '\r'] := by
  have hprefix := List.reverse_prefix.2
    (List.dropWhile_suffix (l := (c :: cs).reverse) fun c => decide (c.toNat ≤ 0x20))
  rw [List.reverse_reverse] at hprefix
  rw [cleaned] at h
  rcases List.prefix_cons_iff.1 hprefix with hnil | ⟨rest, hrest, -⟩
  · rw [hnil] at h
    exact absurd h (Option.some_ne_none d).symm
  · rw [hrest, List.filter_cons] at h
    split at h
    · exact Or.inl (Option.some.inj h).symm
    · rename_i hskip
      refine Or.inr (Decidable.byContradiction fun hnot => hskip ?_)
      simp only [List.mem_cons, List.not_mem_nil, or_false, not_or] at hnot
      simp [hnot]

/-- A host that is not refused at once is named with the help of a character that is no plain
    slash, or of one that is skipped. -/
theorem second_of_namesHost {cs : List Char} (h : namesHost (cleaned ('/' :: cs)) = true) :
    ∃ c ∈ ['/', '\\', '\t', '\n', '\r'], cs.head? = some c := by
  rw [cleaned_cons (by decide)] at h
  obtain ⟨_, d, rest, htext, -, hd⟩ := namesHost_iff.1 h
  obtain ⟨-, htext⟩ := List.cons.inj htext
  rcases cs with _ | ⟨c, cs⟩
  · cases htext
  refine ⟨c, ?_, rfl⟩
  have hhead : (cleaned (c :: cs)).head? = some d := by
    rw [htext]
    rfl
  rcases head?_cleaned hhead with rfl | hskip
  · rcases isSlash_iff.1 hd with rfl | rfl <;> decide
  · exact List.mem_cons_of_mem _ (List.mem_cons_of_mem _ hskip)

/-- The path of a target that names no host comes from the whole target up to its query. A target
    that names a host has a path just where a backslash, a tab or a line end stands second and the
    host is well-formed, and then this is the path behind the host. So it is whatever hosts are
    well-formed, and with `path?` for those of `Authority.isValid`. -/
theorem path_of_reference (valid : List Char → Bool) (target path : String) :
    pathWith? valid target = some path ↔
      target.toList.head? = some '/' ∧
        match (reference target.toList).host? with
        | none => spelled? (withoutQuery (cleaned target.toList)) = some path.toList
        | some host =>
          (∃ c ∈ ['\\', '\t', '\n', '\r'], target.toList[1]? = some c) ∧
            valid host = true ∧
            spelled? (reference target.toList).path = some path.toList := by
  -- The path is told by its characters.
  have hchars : pathWith? valid target = some path ↔
      pathChars? valid target.toList = some path.toList := by
    rw [pathWith?, Option.map_eq_some_iff]
    constructor
    · rintro ⟨cs, hcs, rfl⟩
      rw [hcs, String.toList_ofList]
    · exact fun h => ⟨path.toList, h, String.ofList_toList⟩
  rw [hchars, pathChars?_eq, Option.ite_none_right_eq_some, and_assoc]
  refine and_congr_right fun hslash => ?_
  obtain ⟨cs, hcs⟩ := List.head?_eq_some_iff.1 hslash
  rw [hcs, List.getElem?_cons_succ, ← List.head?_eq_getElem?]
  cases hhost : namesHost (cleaned ('/' :: cs)) with
  | false =>
    -- Without a host, no plain slash stands second.
    have hplain : cs.head? ≠ some '/' := by
      intro h
      obtain ⟨rest, rfl⟩ := List.head?_eq_some_iff.1 h
      rw [cleaned_cons (by decide), cleaned_cons (by decide)] at hhost
      exact Bool.false_ne_true hhost.symm
    rw [reference_of_not_namesHost hhost]
    exact ⟨fun h => h.2, fun h => ⟨⟨hplain, rfl⟩, h⟩⟩
  | true =>
    obtain ⟨second, hmem, hsecond⟩ := second_of_namesHost hhost
    rw [reference_of_namesHost hhost, Option.all_some]
    -- With one, a character stands second that makes a slash, and the plain one is refused.
    constructor
    · rintro ⟨⟨hplain, hvalid⟩, hpath⟩
      refine ⟨⟨second, ?_, hsecond⟩, hvalid, hpath⟩
      rcases List.mem_cons.1 hmem with rfl | hmem
      · exact absurd hsecond hplain
      · exact hmem
    · rintro ⟨⟨c, hc, hfirst⟩, hvalid, hpath⟩
      refine ⟨⟨?_, hvalid⟩, hpath⟩
      rintro hplain
      rw [hfirst] at hplain
      rw [Option.some.inj hplain] at hc
      exact absurd hc (by decide)

/-- A host is passed over where one of its slashes leans back, or a tab stands between them. -/
theorem host_passed_over :
    (reference "/\\evil/static/a.txt".toList).host? = some "evil".toList ∧
      path? "/\\evil/static/a.txt" = some "/static/a.txt" ∧
      (reference "/\t/evil/static/a.txt".toList).host? = some "evil".toList ∧
      path? "/\t/evil/static/a.txt" = some "/static/a.txt" := by
  decide +kernel

end FileServer.Target
