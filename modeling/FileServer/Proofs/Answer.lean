import FileServer.Connection.Respond

/-!
# The answer to a request

What a server answers that has the whole request at once and sends the whole response
at once (`Site.answer`, `Answer.toBytes`): a request that is one head and nothing else,
with a path to a regular file below one of the two folders, is answered by that
file, and every other request by the not-found page, which may be missing.

A dynamic document is moved in chunks, and a chunk that is longer than one request to the
system can move is not moved at all (`Site.Movable`). What goes out over a socket that takes
everything is the whole answer, or only its header where the first chunk is too long
(`Site.delivered`).
-/

namespace FileServer

/-- A status and the body that goes with it. -/
structure Answer where
  status : Status
  body : Bytes
  deriving DecidableEq, Repr

/-- The header that announces the answer. -/
def Answer.header (a : Answer) : ResponseHeader := ⟨a.status, a.body.length⟩

/-- The answer as it goes over the wire. -/
def Answer.toBytes (a : Answer) : Bytes :=
  (ResponseHeader.mk a.status a.body.length).toBytes ++ a.body

/-- What is kept of a result is the result. -/
theorem eq_ok_of_toOption {ε α : Type} {x : Except ε α} {a : α} (h : x.toOption = some a) :
    x = .ok a := by
  rcases x with e | b
  · cases h
  · exact congrArg Except.ok (Option.some.inj h)

namespace Site

/-- The file that a request asks for, if it is a head and nothing else and its path
    leads to a regular file of a folder that is served. -/
def document? (site : Site) (request : Bytes) : Option FileId :=
  match RequestHead.read request with
  | .error _ => none
  | .ok (head, n) =>
    if n = request.length ∧ site.settings.folders.classify head.path ≠ .unserved then
      (Folders.resolve site.settings.documentRoot head.path).bind fun file =>
        (site.tree.openRegular file).toOption
    else none

/-- The file with the not-found page, if there is one. -/
def page? (site : Site) : Option FileId :=
  (site.tree.openRegular site.settings.notFoundPath).toOption

/-- The answer to a request. -/
def answer (site : Site) (request : Bytes) : Answer :=
  match (site.document? request).bind site.tree.content? with
  | some content => ⟨.ok, content⟩
  | none => ⟨.notFound, (site.page?.bind site.tree.content?).getD []⟩

/-- How the path that a request asks for is answered. -/
def resourceOf (site : Site) (request : Bytes) : Resource :=
  match RequestHead.read request with
  | .ok (head, _) => site.settings.folders.classify head.path
  | .error _ => .unserved

/-- Whether a request is answered by a dynamic document. -/
def isDynamic (site : Site) (request : Bytes) : Bool :=
  (site.document? request).isSome && site.resourceOf request == .dynamic

/-- If the answer is moved in chunks, a single request to the system can move each of them. -/
def Movable (site : Site) (request : Bytes) : Prop :=
  site.isDynamic request = true →
    min site.settings.chunkSize (site.answer request).body.length ≤ FileBody.transferLimit

instance (site : Site) (request : Bytes) : Decidable (site.Movable request) :=
  inferInstanceAs (Decidable (_ → _))

/-- What goes out of the answer to a request: all of it, or only the header where a chunk is too
    long to be moved. -/
def delivered (site : Site) (request : Bytes) : Bytes :=
  if site.Movable request then (site.answer request).toBytes
  else (site.answer request).header.toBytes

variable {site : Site} {request : Bytes}

/-- What names no document is not moved in chunks. -/
theorem isDynamic_of_no_document (h : site.document? request = none) :
    site.isDynamic request = false := by
  rw [isDynamic, h]
  rfl

/-- An answer that is not moved in chunks can be moved, -/
theorem movable_of_not_isDynamic (h : site.isDynamic request = false) : site.Movable request :=
  fun hdyn => Bool.noConfusion (h.symm.trans hdyn)

/-- A request that is one head finds the file that its path leads to. -/
theorem document?_eq_some {head : RequestHead} {file : String} {id : FileId}
    (hread : RequestHead.read request = .ok (head, request.length))
    (hres : site.settings.folders.classify head.path ≠ .unserved)
    (hfile : Folders.resolve site.settings.documentRoot head.path = some file)
    (hid : site.tree.openRegular file = .ok id) : site.document? request = some id := by
  rw [document?, hread]
  simp only [if_pos (And.intro True.intro hres), hfile, Option.bind_some, hid]
  rfl

/-- A document that has a content is answered by it. -/
theorem answer_of_document {id : FileId} {content : Bytes} (hid : site.document? request = some id)
    (hcontent : site.tree.content? id = some content) :
    site.answer request = ⟨.ok, content⟩ := by
  rw [answer, hid, Option.bind_some, hcontent]

/-- Without a document the page is the answer. -/
theorem answer_of_no_document (h : site.document? request = none) :
    site.answer request = ⟨.notFound, (site.page?.bind site.tree.content?).getD []⟩ := by
  rw [answer, h, Option.bind_none]

/-- The page, opened and measured, has the content that is answered. -/
theorem page_of_openPage {id : FileId} {n : Nat} (h : Session.openPage site = .ok (id, n)) :
    (site.page?.bind site.tree.content?).getD [] = Session.contentOf site id ∧
      (Session.contentOf site id).length = n := by
  rw [Session.openPage] at h
  cases hopen : site.tree.openRegular site.settings.notFoundPath with
  | error e =>
    rw [hopen] at h
    cases h
  | ok id' =>
    rw [hopen] at h
    simp only [bind, Except.bind, FileTree.size_eq] at h
    cases hcontent : site.tree.content? id' with
    | none =>
      rw [hcontent] at h
      cases h
    | some content =>
      rw [hcontent] at h
      obtain ⟨rfl, rfl⟩ := Prod.mk.inj (Except.ok.inj h)
      simp [page?, hopen, Except.toOption, Session.contentOf, hcontent]

/-- A page that cannot be opened and measured is answered as an empty one. -/
theorem page_of_openPage_error {e : SystemError} (h : Session.openPage site = .error e) :
    (site.page?.bind site.tree.content?).getD [] = [] := by
  rw [Session.openPage] at h
  cases hopen : site.tree.openRegular site.settings.notFoundPath with
  | error e => simp [page?, hopen, Except.toOption]
  | ok id =>
    rw [hopen] at h
    simp only [bind, Except.bind, FileTree.size_eq] at h
    cases hcontent : site.tree.content? id with
    | none => simp [page?, hopen, Except.toOption, hcontent]
    | some content =>
      rw [hcontent] at h
      cases h

end Site

end FileServer
