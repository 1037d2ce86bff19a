import FileServer.Proofs.Connection.Answered
import FileServer.Proofs.FileTree
import FileServer.Proofs.Path
import FileServer.Proofs.Settings

/-!
# Where the not-found page lies

The not-found page is named as it is seen from the document root, and the name is put behind the
root as it stands: nothing looks at it, not even `Settings.check`. So the page lies below the
root just if its name neither begins at the top nor leads back, or begins at the top and leads
below the root by itself (`Settings.notFoundPath_stays_iff`). Whatever it names, the body of a
response that nothing was found is what lies there (`Settings.page_stays_iff`). At the end a page
lies beside the root, and is sent (`Astray`).
-/

namespace FileServer

/-- A path lies below a root: it begins where the root begins, and leads on from there without
    leading back. -/
structure Path.StaysUnder (root path : List Char) : Prop where
  top : path.head? = some '/' ↔ root.head? = some '/'
  down : ∃ names, Path.components path = Path.components root ++ names ∧ Path.parent ∉ names

/-- What does not begin at the top begins where the directory does that it is put behind. -/
theorem Path.head?_joinChars_of_relative {base rel : List Char} (h : rel.head? ≠ some '/') :
    (Path.joinChars base rel).head? = some '/' ↔ base.head? = some '/' := by
  rw [Path.joinChars, if_neg h]
  rcases base with _ | ⟨c, base⟩
  · exact iff_of_false h (Option.some_ne_none _).symm
  · split
    · exact Iff.rfl
    · exact Iff.rfl

namespace Settings

/-- The page lies below the document root just if its name does not begin at the top and never
    leads back, or begins at the top and leads below the root by itself. -/
theorem notFoundPath_stays_iff (s : Settings) :
    Path.StaysUnder s.documentRoot.toList s.notFoundPath.toList ↔
      (s.notFoundPage.toList.head? ≠ some '/' ∧
        Path.parent ∉ Path.components s.notFoundPage.toList) ∨
      (s.notFoundPage.toList.head? = some '/' ∧
        Path.StaysUnder s.documentRoot.toList s.notFoundPage.toList) := by
  rw [notFoundPath, Path.join, String.toList_ofList]
  by_cases htop : s.notFoundPage.toList.head? = some '/'
  · rw [Path.joinChars, if_pos htop]
    exact ⟨fun h => .inr ⟨htop, h⟩, fun h => (h.resolve_left fun hrel => hrel.1 htop).2⟩
  · have hcomponents := Path.components_joinChars_of_relative htop s.documentRoot.toList
    constructor
    · rintro ⟨-, names, hnames, hparent⟩
      rw [hcomponents, List.append_cancel_left_eq] at hnames
      exact .inl ⟨htop, hnames ▸ hparent⟩
    · intro h
      obtain ⟨-, hparent⟩ := h.resolve_right fun habs => htop habs.1
      exact ⟨Path.head?_joinChars_of_relative htop, _, hcomponents, hparent⟩

end Settings

namespace World

variable {S : Type} [Socket S] {site : Site} {next : Next} {s : Session (Recorded S)}

/-- The body of a response that nothing was found is a part of the page, or empty. -/
theorem Reached.carries_page (h : (still S site).Reached (next, s))
    (hp : s.connection.phase.isAnnounced) (hstatus : s.connection.status = .notFound) :
    s.bodySent = [] ∨ ∃ id content,
      site.tree.openRegular site.settings.notFoundPath = .ok id ∧
        site.tree.content? id = some content ∧ s.bodySent <+: content := by
  have hs := h.answering
  have hbody := hs.body hp
  -- The status tells that there is no document, so the answer is the page.
  have hanswer := hs.faithful.status hp
  rw [hstatus] at hanswer
  rw [Site.answer] at hbody hanswer
  split at hbody
  · rename_i heq
    rw [heq] at hanswer
    cases hanswer
  · cases hpage : site.page? with
    | none =>
      rw [hpage] at hbody
      exact .inl (List.prefix_nil.1 hbody)
    | some id =>
      rw [hpage, Option.bind_some] at hbody
      cases hcontent : site.tree.content? id with
      | none =>
        rw [hcontent] at hbody
        exact .inl (List.prefix_nil.1 hbody)
      | some content =>
        rw [hcontent] at hbody
        exact .inr ⟨id, content, eq_ok_of_toOption hpage, hcontent, hbody⟩

end World

/-- Whatever the root and the page are, settings are accepted for the rest of them. The page lies
    below the document root just if its name neither begins at the top nor leads back, or begins
    at the top and leads below the root by itself. In every run over files that stay as they are,
    a response that nothing was found carries what lies there and nothing else. -/
theorem Settings.page_stays_iff (settings : Settings) :
    (∀ root page, check { settings with documentRoot := root, notFoundPage := page } =
      settings.check) ∧
    (Path.StaysUnder settings.documentRoot.toList settings.notFoundPath.toList ↔
      (settings.notFoundPage.toList.head? ≠ some '/' ∧
        Path.parent ∉ Path.components settings.notFoundPage.toList) ∨
      (settings.notFoundPage.toList.head? = some '/' ∧
        Path.StaysUnder settings.documentRoot.toList settings.notFoundPage.toList)) ∧
    ∀ (S : Type) [Socket S] (tree : FileTree) (next : Next) (s : Session (Recorded S)),
      (World.still S ⟨settings, tree⟩).Reached (next, s) → s.connection.phase.isAnnounced →
        s.connection.status = .notFound → s.bodySent = [] ∨ ∃ id content,
          tree.openRegular settings.notFoundPath = .ok id ∧
            tree.content? id = some content ∧ s.bodySent <+: content :=
  ⟨fun _ _ => rfl, settings.notFoundPath_stays_iff,
    fun _ _ _ _ _ hs hp hstatus => hs.carries_page hp hstatus⟩

/-- The page that nobody has said anything about lies below the root, and is what is sent. -/
theorem Settings.page_stays_iff_default :
    Path.StaysUnder ".".toList (notFoundPath {}).toList ∧
      (World.still Duplex (Visit.site Visit.page)).Reached Visit.answered ∧
      Visit.answered.2.connection.phase.isAnnounced ∧
      Visit.answered.2.connection.status = .notFound ∧
      (Visit.answered.2.bodySent = [] ∨ ∃ id content,
        (Visit.site Visit.page).tree.openRegular "./404.html" = .ok id ∧
          (Visit.site Visit.page).tree.content? id = some content ∧
            Visit.answered.2.bodySent <+: content) := by
  have hannounced : (World.still Duplex (Visit.site Visit.page)).Reached
      (Visit.announced.1, Visit.announced.2) :=
    Visit.reached_announced rfl (fun _ => rfl) rfl rfl
  have hquiet : Visit.announced.2.engine.waiting = [] := by rw [Visit.announced_engine]
  have hreached : (World.still Duplex (Visit.site Visit.page)).Reached
      (Visit.answered.1, Visit.answered.2) :=
    hannounced.call .writable Visit.announced_next ⟨rfl, rfl, hquiet⟩ rfl
  -- The header of the page is on its way.
  have hphase := Visit.answered_phase
  have hp : Visit.answered.2.connection.phase.isAnnounced := by rw [hphase]; rfl
  have hstatus : Visit.answered.2.connection.status = .notFound := by
    have horder := hreached.answering.inOrder
    rw [Connection.InOrder, hphase] at horder
    exact horder.2.1
  obtain ⟨-, hstays, hcarries⟩ := page_stays_iff (Visit.site Visit.page).settings
  exact ⟨hstays.2 (.inl ⟨by decide, by decide⟩), hreached, hp, hstatus,
    hcarries Duplex (Visit.site Visit.page).tree _ _ hreached hp hstatus⟩

/-! ### A page beside the root -/

namespace Astray

/-- Settings whose page leads out of the document root. -/
def settings : Settings := { documentRoot := "root", notFoundPage := "../secret" }

/-- A file beside the root, with a text of three letters. -/
def site : Site where
  settings := settings
  tree := {
    nodes := [(["work".toList], .directory), (["work".toList, "root".toList], .directory),
      (["work".toList, "secret".toList], .file 0)]
    contents := [(0, .ofBytes [116, 111, 112])]
    fresh := 1
    home := ["work".toList] }

/-- A connection that nothing was found for. -/
def refused : Session Duplex :=
  ⟨{ token := 1, peer := "10.0.0.1:4000", phase := .sendingNotFound }, {}, {}, []⟩

theorem check_settings : settings.check = .ok () := by
  have haddress : settings.address = .ok ⟨0, 0, 0, 0⟩ := Settings.address_default
  rw [Settings.check, haddress]
  rfl

theorem openPage_site : Session.openPage site = .ok (0, 3) := by
  have hsteps : FileTree.steps site.settings.notFoundPath.toList =
      ["root".toList, Path.parent, "secret".toList] := rfl
  have hwalk : site.tree.walk FileTree.maxLinks ["work".toList]
      ["root".toList, Path.parent, "secret".toList] =
        .ok (.taken ["work".toList, "secret".toList] (.file 0)) := by
    rw [FileTree.walk_directory (by decide) (by decide) (by decide) rfl, FileTree.walk,
      if_neg (by decide), if_pos rfl, FileTree.walk]
    rfl
  have hlocate : site.tree.locate site.settings.notFoundPath =
      .ok (.taken ["work".toList, "secret".toList] (.file 0)) := by
    rw [FileTree.locate, if_neg (by decide +kernel), if_neg (by decide +kernel),
      if_neg (by decide +kernel), hsteps]
    exact hwalk
  rw [Session.openPage, FileTree.openRegular, FileTree.find, hlocate]
  rfl

end Astray

/-- Settings are accepted whose page lies beside the document root, and its content is announced
    to a client that asked for nothing that is there. A page that is named from the top is looked
    for there, wherever the root may be. -/
theorem Settings.page_leads_out : Astray.settings.check = .ok () ∧
    ¬Path.StaysUnder Astray.settings.documentRoot.toList Astray.settings.notFoundPath.toList ∧
    Astray.site.tree.node? ["work".toList, "secret".toList] = some (.file 0) ∧
    (Astray.refused.prepareNotFound Astray.site).connection.file = some 0 ∧
    (Astray.refused.prepareNotFound Astray.site).connection.bodyLength = 3 ∧
    notFoundPath { documentRoot := "/srv/www", notFoundPage := "/etc/passwd" } = "/etc/passwd" := by
  refine ⟨Astray.check_settings, ?_, rfl, ?_, ?_, by decide⟩
  · rw [Astray.settings.notFoundPath_stays_iff]
    rintro (⟨-, hparent⟩ | ⟨htop, -⟩)
    · exact hparent (by decide)
    · exact absurd htop (by decide)
  all_goals
    rw [Session.prepareNotFound, Astray.openPage_site]
    rfl

end FileServer
