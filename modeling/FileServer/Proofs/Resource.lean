import FileServer.Proofs.Path
import FileServer.Proofs.Settings

/-!
# What request paths name

A request path that is served lies under one of the two folders, and the file that it names
lies below the root: the way there goes down through names, the first of which is the
folder (`Folders.Below`, `Folders.below_of_resolve`). This holds of every text, whatever
dots and slashes it holds, and needs of the folder only that it is a single name, as
`Settings.check` makes sure of (`Settings.valid_of_check`).

Two names without a slash in them are never both the first piece of a path (`eq_of_isUnder`),
also where the one name begins with the other. So a path lies under one of the two folders at
most, and that folder decides (`Settings.Valid.classify_of_isUnder`).
-/

namespace FileServer

/-- A path lies under a folder if it shows the folder first and something behind it. -/
theorem isUnder_iff {folder path : List Char} :
    isUnder folder path = true ↔ ∃ c rest, path = '/' :: (folder ++ '/' :: c :: rest) := by
  constructor
  · intro h
    rw [isUnder.eq_def] at h
    split at h
    · obtain ⟨hpre, h⟩ := Bool.and_eq_true_iff.1 h
      obtain ⟨more, rfl⟩ := List.isPrefixOf_iff_prefix.1 hpre
      rw [List.drop_left] at h
      split at h
      · exact ⟨_, _, rfl⟩
      · exact absurd h Bool.false_ne_true
    · exact absurd h Bool.false_ne_true
  · rintro ⟨c, rest, rfl⟩
    rw [isUnder, List.drop_left, Bool.and_eq_true_iff]
    exact ⟨List.isPrefixOf_iff_prefix.2 (List.prefix_append _ _), rfl⟩

/-- A path shows only one name first. -/
theorem eq_of_isUnder {a b path : List Char} (ha : '/' ∉ a) (hb : '/' ∉ b)
    (hunder : isUnder a path = true) (hunder' : isUnder b path = true) : a = b := by
  obtain ⟨c, rest, rfl⟩ := isUnder_iff.1 hunder
  obtain ⟨c', rest', hpath⟩ := isUnder_iff.1 hunder'
  have hpieces := congrArg Path.splitSlash (List.cons.inj hpath).2
  rw [Path.splitSlash_append_slash, Path.splitSlash_append_slash, Path.splitSlash_of_not_mem ha,
    Path.splitSlash_of_not_mem hb] at hpieces
  exact (List.cons.inj hpieces).1

namespace Folders

/-- The folder that the documents of a resource lie in. -/
def folder? (f : Folders) : Resource → Option String
  | .static => some f.static
  | .dynamic => some f.dynamic
  | .unserved => none

/-- A path that is served lies under the folder of its resource. -/
theorem exists_folder {f : Folders} {path : String} (h : f.classify path ≠ .unserved) :
    ∃ folder, f.folder? (f.classify path) = some folder ∧
      isUnder folder.toList path.toList = true := by
  unfold classify at h ⊢
  split at h
  · rename_i hs
    rw [if_pos hs]
    exact ⟨f.static, rfl, hs⟩
  split at h
  · rename_i hs hd
    rw [if_neg hs, if_pos hd]
    exact ⟨f.dynamic, rfl, hd⟩
  · exact absurd rfl h

/-- A path that shows a folder leads to the folder, and on through what stands behind it. -/
theorem pieces?_under {folder : List Char} (hfolder : Path.IsName folder) (behind : List Char) :
    pieces? ('/' :: (folder ++ '/' :: behind)) =
      if Path.parent ∈ folder :: Path.components behind then none
      else some (folder :: Path.components behind) := by
  have hhead : (folder ++ '/' :: behind).head? ≠ some '/' := by
    obtain ⟨c, name, rfl⟩ := List.exists_cons_of_ne_nil hfolder.ne_nil
    exact fun hc => hfolder.no_slash (Option.some.inj hc ▸ List.mem_cons_self)
  -- The folder is all of the first piece, because it holds no slash.
  have hcomponents : Path.components (folder ++ '/' :: behind) =
      folder :: Path.components behind := by
    rw [Path.components_append_slash, hfolder.components_eq]
    rfl
  rw [pieces?, if_neg hhead]
  dsimp only
  rw [hcomponents]

/-- What stands behind the folder decides what a path under a folder resolves to: if it never
    leads back, it leads from there down through the names in it. -/
theorem resolve_under_eq_some_iff {root folder path file : String} {behind : List Char}
    (hfolder : Path.IsName folder.toList)
    (hpath : path.toList = '/' :: (folder.toList ++ '/' :: behind)) :
    resolve root path = some file ↔
      Path.parent ∉ folder.toList :: Path.components behind ∧
        Path.LeadsDown root.toList (folder.toList :: Path.components behind) file.toList := by
  have hnames : ∀ name ∈ folder.toList :: Path.components behind, Path.IsName name :=
    List.forall_mem_cons.2 ⟨hfolder, fun _ => Path.isName_of_mem_components⟩
  have hdown := Path.leadsDown_foldl hnames (List.cons_ne_nil _ _) root.toList
  rw [resolve, hpath, pieces?_under hfolder]
  split
  · rename_i hparent
    exact ⟨fun h => absurd h.symm (Option.some_ne_none _), fun h => absurd hparent h.1⟩
  · rename_i hparent
    rw [Option.map_some, Option.some_inj]
    constructor
    · rintro rfl
      rw [String.toList_ofList]
      exact ⟨hparent, hdown⟩
    · -- The names leave no choice for the text of the path.
      rintro ⟨-, hfile⟩
      rw [hdown.text, ← hfile.text, String.ofList_toList]

/-- A path lies below a root: it leads down from there through names, first of all the
    folder, and none of the names leads back or holds a null character. -/
structure Below (root folder : String) (names : List (List Char)) (file : String) : Prop where
  leadsDown : Path.LeadsDown root.toList names file.toList
  head : names.head? = some folder.toList
  isName : ∀ name ∈ names, Path.IsName name
  ne_parent : ∀ name ∈ names, name ≠ Path.parent
  no_null : ∀ name ∈ names, '\x00' ∉ name

/-- What a path under a folder resolves to lies below the root, in the folder. -/
theorem below_of_resolve {root folder path file : String} (hfolder : Path.IsName folder.toList)
    (hunder : isUnder folder.toList path.toList = true) (hnull : '\x00' ∉ path.toList)
    (h : resolve root path = some file) : ∃ names, Below root folder names file := by
  obtain ⟨c, rest, hpath⟩ := isUnder_iff.1 hunder
  obtain ⟨hparent, hdown⟩ := (resolve_under_eq_some_iff hfolder hpath).1 h
  rw [hpath] at hnull
  refine ⟨_, hdown, rfl, List.forall_mem_cons.2 ⟨hfolder, fun _ => Path.isName_of_mem_components⟩,
    ?_, List.forall_mem_cons.2 ⟨fun hmem => ?_, fun name hname hmem => ?_⟩⟩
  · rintro name hname rfl
    exact hparent hname
  · exact hnull (List.mem_cons_of_mem _ (List.mem_append_left _ hmem))
  · have hsplit : name ∈ Path.splitSlash (c :: rest) := (List.mem_filter.1 hname).1
    have hbehind : '\x00' ∈ c :: rest := Path.mem_of_mem_splitSlash hsplit hmem
    exact hnull (List.mem_cons_of_mem _ (List.mem_append_right _ (List.mem_cons_of_mem _ hbehind)))

end Folders

namespace Settings

theorem isName_of_isSingleName {name : List Char} (h : isSingleName name = true) :
    Path.IsName name := by
  simp only [isSingleName, Bool.and_eq_true, bne_iff_ne, ne_eq, Bool.not_eq_true',
    List.contains_eq_mem, decide_eq_false_iff_not] at h
  exact ⟨h.1.1.1, h.1.1.2, h.2⟩

namespace Valid

variable {s : Settings} (h : s.Valid)

include h

/-- The folders of settings that make sense are single names. -/
theorem isSingleName {r : Resource} {folder : String}
    (hfolder : s.folders.folder? r = some folder) : isSingleName folder.toList = true := by
  cases r with
  | static =>
    obtain rfl := Option.some.inj hfolder
    exact h.static
  | dynamic =>
    obtain rfl := Option.some.inj hfolder
    exact h.dynamic
  | unserved => cases hfolder

theorem isName {r : Resource} {folder : String} (hfolder : s.folders.folder? r = some folder) :
    Path.IsName folder.toList :=
  isName_of_isSingleName (h.isSingleName hfolder)

/-- A folder does not lead back. -/
theorem ne_parent {r : Resource} {folder : String} (hfolder : s.folders.folder? r = some folder) :
    folder.toList ≠ Path.parent := by
  have hsingle := h.isSingleName hfolder
  simp only [Settings.isSingleName, Bool.and_eq_true, bne_iff_ne] at hsingle
  exact hsingle.1.2

/-- No path lies under both folders. -/
theorem not_isUnder_both (path : List Char) : ¬(isUnder s.staticFolder.toList path = true ∧
    isUnder s.dynamicFolder.toList path = true) := by
  rintro ⟨hstatic, hdynamic⟩
  refine h.differ (String.toList_inj.1 (eq_of_isUnder ?_ ?_ hstatic hdynamic))
  · exact (isName_of_isSingleName h.static).no_slash
  · exact (isName_of_isSingleName h.dynamic).no_slash

/-- The folder that a path lies under decides, whichever of the two it is. -/
theorem classify_of_isUnder {r : Resource} {folder path : String}
    (hfolder : s.folders.folder? r = some folder)
    (hunder : isUnder folder.toList path.toList = true) : s.folders.classify path = r := by
  cases r with
  | static =>
    obtain rfl := Option.some.inj hfolder
    exact if_pos hunder
  | dynamic =>
    obtain rfl := Option.some.inj hfolder
    have hstatic : ¬isUnder s.folders.static.toList path.toList = true := fun hstatic =>
      h.not_isUnder_both path.toList ⟨hstatic, hunder⟩
    rw [Folders.classify, if_neg hstatic, if_pos hunder]
  | unserved => cases hfolder

end Valid

end Settings

end FileServer
