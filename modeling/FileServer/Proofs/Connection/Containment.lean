import FileServer.Proofs.Answer
import FileServer.Proofs.Connection.Record
import FileServer.Proofs.FileTree
import FileServer.Proofs.Resource

/-!
# Only documents below the root are opened

Three things stand between a request and the file that answers it: dots in the target are
followed, escapes are taken away, and what comes out is classified by its first piece and
walked from the document root. None of them keeps a request inside the folders by itself,
because an escape may stand for a dot or a slash. Together they do: what a request makes the
server open lies below the document root, in the folder that the request is classified by
(`Session.processRequest_contained`).

The short run at the end asks for a document with dots and a slash that are escaped
(`Escaped`).
-/

namespace FileServer

/-- The path of a target holds no null character. -/
theorem Target.null_notMem_of_pathChars? {valid : List Char → Bool} {target path : List Char}
    (h : Target.pathChars? valid target = some path) : '\x00' ∉ path := by
  rw [Target.pathChars?.eq_def] at h
  split at h
  · cases h
  · obtain ⟨rest, -, h⟩ := Option.bind_eq_some_iff.1 h
    obtain ⟨cs, -, h⟩ := Option.bind_eq_some_iff.1 h
    split at h
    · cases h
    · rename_i hnull
      obtain rfl := Option.some.inj h
      exact hnull
  · cases h

/-- The path of a head holds no null character, whatever its target does. -/
theorem RequestHead.null_notMem_path {bs : Bytes} {head : RequestHead} {n : Nat}
    (h : RequestHead.read bs = .ok (head, n)) : '\x00' ∉ head.path.toList := by
  rw [RequestHead.read] at h
  cases hparts : RequestHead.readParts bs with
  | error e =>
    rw [hparts] at h
    cases h
  | ok parts =>
    rw [hparts] at h
    simp only [bind, Except.bind] at h
    cases hpath : Target.pathChars? Authority.isValid parts.1.target with
    | none =>
      rw [hpath] at h
      cases h
    | some path =>
      rw [hpath] at h
      obtain ⟨rfl, -⟩ := Prod.mk.inj (Except.ok.inj h)
      rw [String.toList_ofList]
      exact Target.null_notMem_of_pathChars? hpath

namespace Session

variable {S : Type} [Sink S] {site : Site} {s : Session S}

/-- A request that leads on to a document has opened the file that its path resolves to. -/
theorem processRequest_finds (hp : s.connection.phase = .requestReceived)
    (h : (s.processRequest site).connection.phase = .sendingHeader) :
    ∃ head file id, RequestHead.read s.connection.received =
        .ok (head, s.connection.received.length) ∧
      site.settings.folders.classify head.path ≠ .unserved ∧
      Folders.resolve site.settings.documentRoot head.path = some file ∧
      site.tree.openRegular file = .ok id ∧
      (s.processRequest site).connection = { s.connection with
        resource := site.settings.folders.classify head.path
        path := some head.path
        file := some id
        phase := .sendingHeader } := by
  obtain ⟨w, ho⟩ := output_onWritable site s
  have hconn : (s.onWritable site).2.connection = (s.processRequest site).connection := by
    rw [onWritable, finish_connection, writable, hp]
  rw [hconn] at ho
  generalize (s.processRequest site).connection = c at h ho
  generalize (s.onWritable site).1 = next at ho
  -- Of all that writability does, only to find a document leads there from a request.
  cases ho with
  | finds _ hread hres hfile hid => exact ⟨_, _, _, hread, hres, hfile, hid, rfl⟩
  | _ => simp_all

/-- Where settings make sense, a request that leads on to a document has opened a path
    below the document root: down through names, the first of which is the folder of the
    resource. -/
theorem processRequest_contained (hcheck : site.settings.check = .ok ())
    (hp : s.connection.phase = .requestReceived)
    (h : (s.processRequest site).connection.phase = .sendingHeader) :
    ∃ head file id folder names, RequestHead.read s.connection.received =
        .ok (head, s.connection.received.length) ∧
      Folders.resolve site.settings.documentRoot head.path = some file ∧
      site.tree.openRegular file = .ok id ∧
      (s.processRequest site).connection = { s.connection with
        resource := site.settings.folders.classify head.path
        path := some head.path
        file := some id
        phase := .sendingHeader } ∧
      site.settings.folders.folder? (s.processRequest site).connection.resource = some folder ∧
      Folders.Below site.settings.documentRoot folder names file := by
  obtain ⟨head, file, id, hread, hres, hfile, hid, hconn⟩ := processRequest_finds hp h
  obtain ⟨folder, hfolder, hunder⟩ := Folders.exists_folder hres
  have hname : Path.IsName folder.toList := (Settings.valid_of_check hcheck).isName hfolder
  obtain ⟨names, hbelow⟩ := Folders.below_of_resolve hname hunder
    (RequestHead.null_notMem_path hread) hfile
  refine ⟨head, file, id, folder, names, hread, hfile, hid, hconn, ?_, hbelow⟩
  rw [hconn]
  exact hfolder

end Session

/-! ### A request with escapes -/

namespace Escaped

/-- A tree with one document, two levels down. -/
def tree (content : LazyBytes) : FileTree where
  nodes := [(["work".toList], .directory), (["work".toList, "static".toList], .directory),
    (["work".toList, "static".toList, "sub".toList], .directory),
    (["work".toList, "static".toList, "sub".toList, "a".toList], .file 0)]
  contents := [(0, content)]
  fresh := 1
  home := ["work".toList]

/-- A site with it. -/
def site : Site where
  settings := {}
  tree := tree (.ofBytes [104, 105])

/-- The request leads into a folder and out again, and then down over an escaped slash. -/
def request : Bytes := Bytes.ofString "GET /static/x/%2e%2E/sub%2fa HTTP/1.0\r\n\r\n"

/-- The request was received. -/
def received : Session (Recorded Duplex) :=
  ⟨{ token := 1, peer := "10.0.0.1:4000", phase := .requestReceived, received := request },
    ⟨{}, []⟩, {}, []⟩

theorem read_request :
    RequestHead.read request = .ok (⟨"GET", "/static/sub/a", 0⟩, request.length) :=
  eq_ok_of_toOption (by decide +kernel)

theorem openRegular_tree (content : LazyBytes) :
    (tree content).openRegular "./static/sub/a" = .ok 0 := by
  have hsteps : FileTree.steps "./static/sub/a".toList =
      [Path.here, "static".toList, "sub".toList, "a".toList] := rfl
  have hwalk : (tree content).walk FileTree.maxLinks ["work".toList]
      [Path.here, "static".toList, "sub".toList, "a".toList] = .ok (.taken
        ["work".toList, "static".toList, "sub".toList, "a".toList] (.file 0)) := by
    rw [FileTree.walk, if_pos rfl, FileTree.walk_directory (by decide) (by decide) (by decide) rfl,
      FileTree.walk_directory (by decide) (by decide) (by decide) rfl, FileTree.walk]
    rfl
  have hlocate : (tree content).locate "./static/sub/a" = .ok (.taken
      ["work".toList, "static".toList, "sub".toList, "a".toList] (.file 0)) := by
    rw [FileTree.locate, if_neg (by decide +kernel), if_neg (by decide +kernel),
      if_neg (by decide +kernel), hsteps]
    exact hwalk
  rw [FileTree.openRegular, FileTree.find, hlocate]
  rfl

theorem resolve_path : Folders.resolve "." "/static/sub/a" = some "./static/sub/a" := rfl

theorem sound_tree {content : LazyBytes} (h : content.length ≤ FileTree.maxSize) :
    (tree content).Sound where
  content loc id h := by
    rw [FileTree.node?] at h
    simp only [tree, FileTree.lookup_cons_eq_ite, List.lookup_nil] at h
    -- The last of the entries is the only file.
    repeat' split at h
    all_goals cases h
    rfl
  size_le id bs hbs := by
    obtain ⟨stored, hstored, rfl⟩ := FileTree.content?_eq_some.1 hbs
    rw [FileTree.stored?, tree, FileTree.lookup_cons_eq_ite, List.lookup_nil] at hstored
    split at hstored
    · rwa [LazyBytes.length_toBytes, ← Option.some.inj hstored]
    · cases hstored

theorem sound_site : site.tree.Sound := sound_tree (by decide)

section

variable {settings : Settings} {content : LazyBytes} (hroot : settings.documentRoot = ".")
  (hserved : settings.folders.classify "/static/sub/a" ≠ .unserved)

include hroot hserved

/-- Whichever of the two folders it lies in, the document is found, -/
theorem document?_request : Site.document? ⟨settings, tree content⟩ request = some 0 :=
  Site.document?_eq_some read_request hserved (hroot ▸ resolve_path) (openRegular_tree content)

/-- and answered. -/
theorem answer_request : Site.answer ⟨settings, tree content⟩ request = ⟨.ok, content.toBytes⟩ :=
  Site.answer_of_document (document?_request hroot hserved) rfl

/-- It is moved in chunks if that is the dynamic one. -/
theorem isDynamic_request : Site.isDynamic ⟨settings, tree content⟩ request =
    (settings.folders.classify "/static/sub/a" == .dynamic) := by
  rw [Site.isDynamic, document?_request hroot hserved, Site.resourceOf, read_request]
  exact Bool.true_and _

end

theorem classify_path : site.settings.folders.classify "/static/sub/a" = .static := by
  decide +kernel

theorem document?_site : site.document? request = some 0 :=
  document?_request rfl (classify_path ▸ nofun)

theorem phase_received : (received.processRequest site).connection.phase = .sendingHeader := by
  have hread : RequestHead.read received.connection.received =
      .ok (⟨"GET", "/static/sub/a", 0⟩, received.connection.received.length) := read_request
  have hresolve : Folders.resolve site.settings.documentRoot "/static/sub/a" =
      some "./static/sub/a" := resolve_path
  rw [Session.processRequest, hread]
  simp only [if_pos, Session.serve, Session.openDocument, classify_path, Session.note_connection,
    Session.update_connection, hresolve, show site.tree.openRegular "./static/sub/a" = .ok 0 from
      openRegular_tree _]
  rfl

end Escaped

/-- Escaped dots and an escaped slash lead to a document, which lies in the folder. -/
theorem Session.processRequest_contained_escaped : Escaped.site.settings.check = .ok () ∧
    Escaped.received.connection.phase = .requestReceived ∧
    (Escaped.received.processRequest Escaped.site).connection.phase = .sendingHeader ∧
    ∃ names, Folders.Below "." "static" names "./static/sub/a" := by
  have hcheck : Escaped.site.settings.check = .ok () := Settings.check_default
  have hphase := Escaped.phase_received
  obtain ⟨head, file, id, folder, names, hread, hfile, -, hconn, hfolder, hbelow⟩ :=
    processRequest_contained hcheck rfl hphase
  refine ⟨hcheck, rfl, hphase, names, ?_⟩
  obtain ⟨rfl, -⟩ := Prod.mk.inj (Except.ok.inj (hread.symm.trans Escaped.read_request))
  obtain rfl := Option.some.inj (hfile.symm.trans Escaped.resolve_path)
  rw [hconn] at hfolder
  simp only [Escaped.classify_path] at hfolder
  obtain rfl := Option.some.inj hfolder
  exact hbelow

end FileServer
