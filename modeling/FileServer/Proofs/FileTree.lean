import FileServer.FileTree

/-!
# File trees that a system can hold

A tree is sound if whatever stands somewhere as a file has a content, and no content is
larger than a file may be (`FileTree.Sound`). The empty tree is sound, every operation that
changes a tree keeps it so, and therefore every tree that comes about is
(`FileTree.Made.sound`). In a sound tree, what can be opened can be read
(`FileTree.Sound.exists_content`).
-/

namespace FileServer

/-- What stands somewhere as a file has a content, and no content is larger than a file may
    be. -/
structure FileTree.Sound (t : FileTree) : Prop where
  content : ∀ loc id, t.node? loc = some (.file id) → (t.content? id).isSome
  size_le : ∀ id content, t.content? id = some content → content.length ≤ maxSize

namespace FileTree

variable {t : FileTree} {loc : Location} {id : FileId} {path : String}

/-! ### What can be opened -/

/-- A walk goes on in a directory. -/
theorem walk_directory {links : Nat} {here : Location} {name : List Char} {todo : List (List Char)}
    (hhere : name ≠ Path.here) (hparent : name ≠ Path.parent)
    (hlength : ¬(Bytes.ofChars name).length > maxName)
    (hnode : t.node? (here ++ [name]) = some .directory) :
    t.walk links here (name :: todo) = t.walk links (here ++ [name]) todo := by
  rw [walk, if_neg hhere, if_neg hparent, if_neg hlength]
  simp only [hnode]

/-- A walk that ends at a file ends where it stands. -/
theorem node?_of_walk {links : Nat} {here : Location} {todo : List (List Char)}
    (h : t.walk links here todo = .ok (.taken loc (.file id))) : t.node? loc = some (.file id) := by
  fun_induction walk t links here todo with
  | case2 links here todo ih | case3 links here todo _ ih => exact ih h
  | case7 links here name todo _ _ _ there hnode ih => exact ih h
  | case8 links here name _ _ _ there id' hnode =>
    obtain ⟨rfl, hid⟩ := Place.taken.inj (Except.ok.inj h)
    rwa [← hid]
  | case11 here name todo _ _ _ there target hnode links ih => exact ih h
  | _ => cases h

/-- A path is followed by a walk. -/
theorem node?_of_locate (h : t.locate path = .ok (.taken loc (.file id))) :
    t.node? loc = some (.file id) := by
  rw [locate] at h
  split at h
  · cases h
  split at h
  · cases h
  split at h
  · cases h
  · exact node?_of_walk h

/-- What can be opened stands somewhere as a file. -/
theorem node?_of_openRegular (h : t.openRegular path = .ok id) :
    ∃ loc, t.node? loc = some (.file id) := by
  rw [openRegular, find] at h
  rcases hlocate : t.locate path with e | ⟨loc, _ | id' | target⟩ | loc <;> rw [hlocate] at h
  -- Only a path to a file can be opened.
  case ok.taken.file =>
    cases h
    exact ⟨loc, node?_of_locate hlocate⟩
  all_goals cases h

/-- What can be opened has a content. -/
theorem Sound.exists_content (ht : t.Sound) (h : t.openRegular path = .ok id) :
    ∃ content, t.content? id = some content := by
  obtain ⟨loc, hloc⟩ := node?_of_openRegular h
  exact Option.isSome_iff_exists.1 (ht.content loc id hloc)

/-! ### What changes a tree -/

section

variable {α β : Type} [BEq α] [LawfulBEq α] [DecidableEq α]

theorem lookup_cons_eq_ite (key k : α) (value : β) (l : List (α × β)) :
    ((key, value) :: l).lookup k = if k = key then some value else l.lookup k := by
  rw [List.lookup_cons]
  split <;> simp_all

theorem lookup_put (key k : α) (value : β) (l : List (α × β)) :
    (put key value l).lookup k = if k = key then some value else l.lookup k := by
  induction l with
  | nil => rw [put, lookup_cons_eq_ite]
  | cons entry rest ih =>
    rcases entry with ⟨key', value'⟩
    rw [put]
    split
    · rename_i h
      obtain rfl := eq_of_beq h
      rw [lookup_cons_eq_ite, lookup_cons_eq_ite]
      split <;> rfl
    · rename_i h
      rw [lookup_cons_eq_ite, lookup_cons_eq_ite, ih]
      split
      · rename_i hk
        have hne : k ≠ key := fun hk' => h (beq_iff_eq.2 (hk.symm.trans hk'))
        rw [if_neg hne]
      · rfl

/-- To keep the entries of some keys is to find just those. -/
theorem lookup_filter (keep : α → Bool) (l : List (α × β)) (k : α) :
    (l.filter fun entry => keep entry.1).lookup k = if keep k then l.lookup k else none := by
  induction l with
  | nil => simp
  | cons entry rest ih =>
    rcases entry with ⟨key, value⟩
    rw [List.filter_cons, lookup_cons_eq_ite]
    by_cases hk : k = key
    · subst hk
      cases hkeep : keep k <;> simp [hkeep, ih]
    · cases keep key <;> simp [ih, hk, lookup_cons_eq_ite]

end

theorem node?_place (loc' : Location) (node : Node) : (t.place loc node).node? loc' =
    if loc' = [] then some .directory else if loc' = loc then some node else t.node? loc' := by
  rw [node?, node?]
  split
  · rfl
  · exact lookup_put _ _ _ _

theorem content?_setContent (id' : FileId) (content : LazyBytes) :
    (t.setContent id content).content? id' =
      if id' = id then some content.toBytes else t.content? id' := by
  rw [content?, stored?, setContent, lookup_put]
  split <;> rfl

theorem node?_create (loc' : Location) (content : LazyBytes) :
    (t.create loc content).node? loc' = (t.place loc (.file t.fresh)).node? loc' := rfl

theorem content?_create (content : LazyBytes) : (t.create loc content).content? id =
    if id = t.fresh then some content.toBytes else t.content? id := content?_setContent _ _

/-- In the empty tree there is nothing to be opened. -/
theorem sound_empty : empty.Sound where
  content loc id h := by
    rw [node?] at h
    split at h
    · cases h
    · rw [empty, List.lookup_cons] at h
      split at h <;> cases h
  size_le id content h := by cases h

namespace Sound

variable {t' : FileTree} {content : LazyBytes}

/-- A directory or a link holds nothing. -/
theorem place (ht : t.Sound) {node : Node} (hnode : ∀ id, node ≠ .file id) :
    (t.place loc node).Sound where
  content loc' id h := by
    rw [node?_place] at h
    split at h
    · cases h
    split at h
    · exact absurd (Option.some.inj h) (hnode id)
    · exact ht.content loc' id h
  size_le := ht.size_le

theorem makeParents (ht : t.Sound) (here : Location) (todo : List (List Char)) :
    (t.makeParents here todo).Sound := by
  fun_induction FileTree.makeParents t here todo with
  | case1 | case2 => exact ht
  | case3 t here name todo hne there t' ih =>
    refine ih ?_
    show (if _ then _ else _ : FileTree).Sound
    split
    · exact ht.place nofun
    · exact ht

theorem withParents (ht : t.Sound) (path : String) : (t.withParents path).Sound :=
  ht.makeParents _ _

/-- To take entries away takes no content away. -/
theorem filter (ht : t.Sound) (keep : Location → Bool) :
    FileTree.Sound { t with nodes := t.nodes.filter fun entry => keep entry.1 } where
  content loc id h := by
    refine ht.content loc id ?_
    rw [node?] at h ⊢
    split at h
    · cases h
    · rename_i hne
      rw [lookup_filter] at h
      rw [if_neg hne]
      split at h
      · exact h
      · cases h
  size_le := ht.size_le

theorem setContent (ht : t.Sound) (hsize : content.length ≤ maxSize) :
    (t.setContent id content).Sound where
  content loc id' h := by
    rw [content?_setContent]
    split
    · rfl
    · exact ht.content loc id' h
  size_le id' content' h := by
    rw [content?_setContent] at h
    split at h
    · rwa [← Option.some.inj h, LazyBytes.length_toBytes]
    · exact ht.size_le id' content' h

/-- A new file has its content. -/
theorem create (ht : t.Sound) (hsize : content.length ≤ maxSize) :
    (t.create loc content).Sound where
  content loc' id h := by
    rw [content?_create]
    split
    · rfl
    rename_i hne
    rw [node?_create, node?_place] at h
    split at h
    · cases h
    split at h
    · exact absurd (Node.file.inj (Option.some.inj h)).symm hne
    · exact ht.content loc' id h
  size_le := (ht.setContent hsize).size_le

theorem write (ht : t.Sound) (hsize : content.length ≤ maxSize)
    (h : t.write path content = .ok t') : t'.Sound := by
  have hparents := ht.withParents path
  rw [FileTree.write] at h
  split at h
  · cases h
    exact hparents.setContent hsize
  · cases h
  · cases h
    exact hparents.create hsize
  · cases h

theorem makeDirectory (ht : t.Sound) (h : t.makeDirectory path = .ok t') : t'.Sound := by
  have hparents := ht.withParents path
  rw [FileTree.makeDirectory] at h
  split at h
  · cases h
    exact hparents
  · cases h
  · cases h
    exact hparents.place nofun
  · cases h

theorem link (ht : t.Sound) {target : String} (h : t.link path target = .ok t') : t'.Sound := by
  have hparents := ht.withParents path
  rw [FileTree.link] at h
  dsimp only at h
  rcases hentry : (t.withParents path).entry path with e | loc
  · rw [hentry] at h
    cases h
  · rw [hentry] at h
    dsimp only [bind, Except.bind] at h
    split at h
    · cases h
    · cases h
      exact hparents.place nofun

theorem remove (ht : t.Sound) (h : t.remove path = .ok t') : t'.Sound := by
  rw [FileTree.remove] at h
  rcases hentry : t.entry path with e | loc
  · rw [hentry] at h
    cases h
  · rw [hentry] at h
    dsimp only [bind, Except.bind] at h
    split at h
    · cases h
    · cases h
      exact ht.filter fun there => !loc.isPrefixOf there

end Sound

/-- The trees that come from the empty one when files are written that are not too large,
    directories and links are made, and things are removed. -/
inductive Made : FileTree → Prop
  | empty : Made empty
  | write {t t' : FileTree} {path : String} {content : LazyBytes} : Made t →
      content.length ≤ maxSize → t.write path content = .ok t' → Made t'
  | makeDirectory {t t' : FileTree} {path : String} : Made t →
      t.makeDirectory path = .ok t' → Made t'
  | link {t t' : FileTree} {path target : String} : Made t → t.link path target = .ok t' → Made t'
  | remove {t t' : FileTree} {path : String} : Made t → t.remove path = .ok t' → Made t'

/-- Every tree that comes about is sound. -/
theorem Made.sound (h : t.Made) : t.Sound := by
  induction h with
  | empty => exact sound_empty
  | write _ hsize h ih => exact ih.write hsize h
  | makeDirectory _ h ih => exact ih.makeDirectory h
  | link _ h ih => exact ih.link h
  | remove _ h ih => exact ih.remove h

end FileTree

end FileServer
