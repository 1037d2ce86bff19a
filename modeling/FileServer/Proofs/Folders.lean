import FileServer.Proofs.Resource
import Mathlib.Data.List.Basic

/-!
# Which folder a path lies under

A path lies under one folder at most, so it does not matter which of the two folders is looked
for first (`Folders.never_under_both`).

What a path under a folder resolves to is told by what stands behind the folder
(`Folders.resolve_under_eq_some_iff`). A path that shows something there need not lead below the
folder: a text of slashes and lone dots leads nowhere (`Path.LeadsNowhere`), and with such a text
behind it the folder is classified as if it were a document (`Folders.bare_folder_served`). In all
other cases a path that is served leads below the folder (`Folders.below_unless_idle`).
-/

namespace FileServer

/-- The resource that has the other folder. -/
def Resource.other : Resource → Resource
  | static => dynamic
  | dynamic => static
  | unserved => unserved

namespace Folders

/-- Of settings that make sense, no path lies under both folders, so it does not matter which one
    is looked for first: with the folders exchanged, so are the resources. -/
theorem never_under_both {s : Settings} (hcheck : s.check = .ok ()) (path : String) :
    ¬(isUnder s.staticFolder.toList path.toList = true ∧
        isUnder s.dynamicFolder.toList path.toList = true) ∧
      classify ⟨s.dynamicFolder, s.staticFolder⟩ path =
        (classify ⟨s.staticFolder, s.dynamicFolder⟩ path).other := by
  have hboth := (Settings.valid_of_check hcheck).not_isUnder_both path.toList
  refine ⟨hboth, ?_⟩
  unfold classify
  by_cases hstatic : isUnder s.staticFolder.toList path.toList = true
  · have hdynamic : ¬isUnder s.dynamicFolder.toList path.toList = true := fun hdynamic =>
      hboth ⟨hstatic, hdynamic⟩
    rw [if_neg hdynamic, if_pos hstatic, if_pos hstatic]
    rfl
  · by_cases hdynamic : isUnder s.dynamicFolder.toList path.toList = true
    · rw [if_pos hdynamic, if_neg hstatic, if_pos hdynamic]
      rfl
    · rw [if_neg hdynamic, if_neg hstatic, if_neg hstatic, if_neg hdynamic]
      rfl

/-- Folders one of which begins with the name of the other. -/
theorem never_under_both_nested :
    let s : Settings := { staticFolder := "a", dynamicFolder := "ab" }
    s.check = .ok () ∧ s.folders.classify "/ab/x" = .dynamic ∧
      classify ⟨"ab", "a"⟩ "/ab/x" = .static := by
  intro s
  have hcheck : s.check = .ok () := by decide +kernel
  have hdynamic : s.folders.classify "/ab/x" = .dynamic := by decide +kernel
  obtain ⟨-, hother⟩ := never_under_both hcheck "/ab/x"
  exact ⟨hcheck, hdynamic, hother.trans (congrArg Resource.other hdynamic)⟩

end Folders

/-! ### What stands behind the folder -/

/-- Nothing but lone dots stands between the slashes of a text. -/
def Path.LeadsNowhere (cs : List Char) : Prop :=
  ∀ piece ∈ Path.splitSlash cs, piece = [] ∨ piece = Path.here

theorem Path.components_eq_nil_iff {cs : List Char} :
    Path.components cs = [] ↔ Path.LeadsNowhere cs := by
  rw [Path.components, List.filter_eq_nil_iff, Path.LeadsNowhere]
  refine forall₂_congr fun piece _ => ?_
  rw [Bool.and_eq_true, bne_iff_ne, bne_iff_ne, ← not_or, not_not]

namespace Folders

variable {s : Settings} {r : Resource} {folder root path file : String}

/-- What a path is served from lies in the folder of its resource, and is the folder itself just
    if what stands behind the folder in the path leads nowhere. -/
theorem leadsDown_of_served (hvalid : s.Valid) (hfolder : s.folders.folder? r = some folder)
    (hres : s.folders.classify path = r) (hfile : resolve root path = some file) :
    ∃ names, Path.LeadsDown root.toList (folder.toList :: names) file.toList ∧
      (names = [] ↔ ∃ idle, idle ≠ [] ∧ Path.LeadsNowhere idle ∧
        path.toList = '/' :: (folder.toList ++ '/' :: idle)) := by
  have hserved : s.folders.classify path ≠ .unserved := by
    rw [hres]
    rintro rfl
    cases hfolder
  obtain ⟨folder', hfolder', hunder⟩ := exists_folder hserved
  rw [hres] at hfolder'
  obtain rfl := Option.some.inj (hfolder.symm.trans hfolder')
  obtain ⟨c, rest, hpath⟩ := isUnder_iff.1 hunder
  obtain ⟨-, hdown⟩ := (resolve_under_eq_some_iff (hvalid.isName hfolder) hpath).1 hfile
  refine ⟨_, hdown, fun hnil => ?_, ?_⟩
  · exact ⟨c :: rest, List.cons_ne_nil _ _, Path.components_eq_nil_iff.1 hnil, hpath⟩
  · rintro ⟨idle, -, hidle, hpath'⟩
    have hbehind := (List.cons.inj (hpath.symm.trans hpath')).2
    rw [List.append_cancel_left_eq] at hbehind
    rw [(List.cons.inj hbehind).2]
    exact Path.components_eq_nil_iff.2 hidle

/-- With a text behind it that leads nowhere, the folder is served and found. -/
theorem served_of_idle (hvalid : s.Valid) (hfolder : s.folders.folder? r = some folder)
    (root : String) {idle : List Char} (hne : idle ≠ []) (hidle : Path.LeadsNowhere idle)
    (hpath : path.toList = '/' :: (folder.toList ++ '/' :: idle)) :
    s.folders.classify path = r ∧ ∃ file, resolve root path = some file ∧
      Path.LeadsDown root.toList [folder.toList] file.toList := by
  obtain ⟨c, rest, rfl⟩ := List.exists_cons_of_ne_nil hne
  have hname : Path.IsName folder.toList := hvalid.isName hfolder
  have hparent : Path.parent ∉ [folder.toList] := fun hmem =>
    hvalid.ne_parent hfolder (List.mem_singleton.1 hmem).symm
  have hdown : Path.LeadsDown root.toList [folder.toList]
      (String.ofList (Path.joinChars root.toList folder.toList)).toList := by
    rw [String.toList_ofList]
    exact Path.leadsDown_foldl (List.forall_mem_singleton.2 hname) (List.cons_ne_nil _ _) _
  refine ⟨hvalid.classify_of_isUnder hfolder (isUnder_iff.2 ⟨c, rest, hpath⟩), _,
    (resolve_under_eq_some_iff hname hpath).2 ?_, hdown⟩
  rw [Path.components_eq_nil_iff.2 hidle]
  exact ⟨hparent, hdown⟩

/-- Of settings that make sense, what a path is served from lies in the folder of its resource,
    and below the folder unless only a text that leads nowhere stands behind the folder in the
    path. Each such text is enough for the folder itself to be found and served. -/
theorem below_unless_idle (hcheck : s.check = .ok ()) (hfolder : s.folders.folder? r = some folder)
    (root : String) :
    (∀ path file, s.folders.classify path = r → resolve root path = some file →
      ∃ names, Path.LeadsDown root.toList (folder.toList :: names) file.toList ∧
        (names = [] ↔ ∃ idle, idle ≠ [] ∧ Path.LeadsNowhere idle ∧
          path.toList = '/' :: (folder.toList ++ '/' :: idle))) ∧
      ∀ idle path, idle ≠ [] → Path.LeadsNowhere idle →
        path.toList = '/' :: (folder.toList ++ '/' :: idle) →
        s.folders.classify path = r ∧ ∃ file, resolve root path = some file ∧
          Path.LeadsDown root.toList [folder.toList] file.toList := by
  have hvalid := Settings.valid_of_check hcheck
  exact ⟨fun _ _ => leadsDown_of_served hvalid hfolder,
    fun _ _ => served_of_idle hvalid hfolder root⟩

/-- A document behind a lone dot lies below its folder, and the folder with a slash and a dot
    behind it is found itself. -/
theorem below_unless_idle_dotted :
    Settings.check {} = .ok () ∧ (Settings.folders {}).folder? .static = some "static" ∧
      (∃ names, names ≠ [] ∧
        Path.LeadsDown "/srv".toList ("static".toList :: names) "/srv/static/a".toList) ∧
      (Settings.folders {}).classify "/static//." = .static ∧
      ∃ file, resolve "/srv" "/static//." = some file ∧
        Path.LeadsDown "/srv".toList ["static".toList] file.toList := by
  have hcheck : Settings.check {} = .ok () := Settings.check_default
  have hstatic : (Settings.folders {}).classify "/static/./a" = .static := by decide +kernel
  have hfolder : (Settings.folders {}).folder? .static = some "static" := rfl
  obtain ⟨hbelow, hidle⟩ := below_unless_idle hcheck hfolder "/srv"
  obtain ⟨names, hdown, -⟩ := hbelow "/static/./a" "/srv/static/a" hstatic (by decide +kernel)
  refine ⟨hcheck, hfolder, ⟨names, ?_, hdown⟩, hidle "/.".toList "/static//." (by decide) ?_
    (by decide +kernel)⟩
  · rintro rfl
    exact absurd hdown.components (by decide +kernel)
  · exact Path.components_eq_nil_iff.1 (by decide +kernel)

/-- The folder itself is classified as a document is, if two slashes stand behind it. -/
theorem bare_folder_served :
    Settings.check {} = .ok () ∧ (Settings.folders {}).classify "/static//" = .static ∧
      resolve "." "/static//" = some "./static" ∧
      ¬∃ names, names ≠ [] ∧ Path.components "./static".toList =
        Path.components ".".toList ++ "static".toList :: names := by
  refine ⟨Settings.check_default, by decide +kernel, by decide +kernel, ?_⟩
  rintro ⟨names, hne, hcomponents⟩
  have hfile : Path.components "./static".toList = ["static".toList] := by decide +kernel
  have hroot : Path.components ".".toList = [] := by decide +kernel
  rw [hfile, hroot, List.nil_append] at hcomponents
  exact hne (List.cons.inj hcomponents).2.symm

end Folders

end FileServer
