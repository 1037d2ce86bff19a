import FileServer.Path

/-!
# Where paths lead

A *name* is a piece of a path that leads down by one step: it is not empty, not a dot,
and holds no slash (`Path.IsName`). A path that is joined from a directory and names leads
from the directory down through the names, and its text shows it
(`Path.LeadsDown`, `Path.leadsDown_foldl`): the directory stands in front, then the names,
with one slash between two of them.

* `Path.components_append_slash`: a slash separates, whatever stands around it;
* `Path.components_joinChars_of_relative`: joining keeps the components on both sides;
* `Path.components_joinChars`: joining a name adds just this name.
-/

namespace FileServer.Path

/-- A slash separates the pieces in front of it from those behind it. -/
theorem splitSlash_append_slash (a b : List Char) :
    splitSlash (a ++ '/' :: b) = splitSlash a ++ splitSlash b := by
  induction a with
  | nil => rfl
  | cons c a ih =>
    rw [List.cons_append, splitSlash, splitSlash, ih]
    by_cases hc : c = '/'
    · rw [if_pos hc, if_pos hc, List.cons_append]
    · rw [if_neg hc, if_neg hc]
      -- There is a first piece of `a`, and it is the one that `c` belongs to.
      cases ha : splitSlash a with
      | nil => exact absurd ha (splitSlash_ne_nil a)
      | cons piece pieces => rfl

/-- A piece is made of characters of the text. -/
theorem mem_of_mem_splitSlash {cs piece : List Char} {c : Char} (h : piece ∈ splitSlash cs)
    (hc : c ∈ piece) : c ∈ cs := by
  induction cs generalizing piece with
  | nil =>
    rw [splitSlash, List.mem_singleton] at h
    rwa [h] at hc
  | cons d cs ih =>
    rw [splitSlash] at h
    split at h
    · rcases List.mem_cons.1 h with rfl | h
      · exact absurd hc List.not_mem_nil
      · exact List.mem_cons_of_mem _ (ih h hc)
    split at h
    · rename_i hnil
      exact absurd hnil (splitSlash_ne_nil cs)
    · rename_i first pieces heq
      rcases List.mem_cons.1 h with rfl | h
      · rcases List.mem_cons.1 hc with rfl | hc
        · exact List.mem_cons_self
        · exact List.mem_cons_of_mem _ (ih (heq ▸ List.mem_cons_self) hc)
      · exact List.mem_cons_of_mem _ (ih (heq ▸ List.mem_cons_of_mem _ h) hc)

/-- The components around a slash. -/
theorem components_append_slash (a b : List Char) :
    components (a ++ '/' :: b) = components a ++ components b := by
  rw [components, splitSlash_append_slash, List.filter_append, components, components]

/-- A piece of a path that leads down by one step. -/
structure IsName (name : List Char) : Prop where
  ne_nil : name ≠ []
  ne_here : name ≠ here
  no_slash : '/' ∉ name

/-- A name is all that it leads through. -/
theorem IsName.components_eq {name : List Char} (h : IsName name) : components name = [name] := by
  rw [components, splitSlash_of_not_mem h.no_slash]
  simp [h.ne_nil, h.ne_here]

/-- All components are names. -/
theorem isName_of_mem_components {cs name : List Char} (h : name ∈ components cs) :
    IsName name := by
  obtain ⟨hmem, hne⟩ := List.mem_filter.1 h
  simp only [bne_iff_ne, ne_eq, Bool.and_eq_true] at hne
  exact ⟨hne.1, hne.2, slash_not_mem_of_mem_splitSlash hmem⟩

/-- The slash between a directory and a name behind it, where it does not stand there
    already. -/
def separator (base : List Char) : List Char :=
  if base = [] ∨ base.getLast? = some '/' then [] else ['/']

theorem IsName.joinChars_eq {name : List Char} (h : IsName name) (base : List Char) :
    joinChars base name = base ++ separator base ++ name := by
  have hhead : name.head? ≠ some '/' := fun hh => h.no_slash (List.mem_of_mem_head? hh)
  rw [joinChars, if_neg hhead, separator]
  split
  · rw [List.append_nil]
  · rw [List.append_assoc, List.singleton_append]

/-- What stands behind a directory keeps the components on both sides, whether a slash had to be
    written between the two or not. -/
theorem components_joinChars_of_relative {rel : List Char} (h : rel.head? ≠ some '/')
    (base : List Char) : components (joinChars base rel) = components base ++ components rel := by
  rw [joinChars, if_neg h]
  split
  · rename_i hbase
    rcases hbase with rfl | hlast
    · rfl
    · -- The slash that stands already has nothing behind it.
      obtain ⟨front, rfl⟩ := List.getLast?_eq_some_iff.1 hlast
      have hnil : components (front ++ '/' :: []) = components front ++ components [] :=
        components_append_slash front []
      rw [List.append_assoc, List.singleton_append, components_append_slash, hnil]
      exact congrArg (· ++ components rel) (List.append_nil _).symm
  · exact components_append_slash base rel

/-- Joining a name adds this name to the components, and nothing else. -/
theorem components_joinChars {name : List Char} (h : IsName name) (base : List Char) :
    components (joinChars base name) = components base ++ [name] := by
  have hhead : name.head? ≠ some '/' := fun hh => h.no_slash (List.mem_of_mem_head? hh)
  rw [components_joinChars_of_relative hhead, h.components_eq]

/-- A path leads from a directory down through names: so its text is put together, and
    so its components follow each other. -/
structure LeadsDown (base : List Char) (names : List (List Char)) (path : List Char) : Prop where
  text : path = base ++ separator base ++ ['/'].intercalate names
  components : Path.components path = Path.components base ++ names

/-- Behind a name that was joined, a slash is missing. -/
theorem separator_append {name : List Char} (h : IsName name) (base : List Char) :
    separator (base ++ name) = ['/'] := by
  refine if_neg ?_
  rintro (hnil | hlast)
  · exact h.ne_nil (List.append_eq_nil_iff.1 hnil).2
  · rw [List.getLast?_append, List.getLast?_eq_some_getLast h.ne_nil, Option.some_or] at hlast
    exact h.no_slash (Option.some.inj hlast ▸ List.getLast_mem h.ne_nil)

/-- Names joined one after the other lead down through all of them. -/
theorem leadsDown_foldl {names : List (List Char)} (hnames : ∀ name ∈ names, IsName name)
    (hne : names ≠ []) (base : List Char) : LeadsDown base names (names.foldl joinChars base) := by
  -- By induction on the names, from the directory that the first one leads to.
  induction names generalizing base with
  | nil => exact absurd rfl hne
  | cons name names ih =>
    have hname : IsName name := hnames name List.mem_cons_self
    have hjoin := hname.joinChars_eq base
    rw [List.foldl_cons]
    rcases names with _ | ⟨next, names⟩
    · refine ⟨?_, components_joinChars hname base⟩
      rw [List.foldl_nil, hjoin, List.intercalate_singleton]
    · obtain ⟨htext, hcomp⟩ := ih (fun n hn => hnames n (List.mem_cons_of_mem _ hn))
        (List.cons_ne_nil _ _) (joinChars base name)
      refine ⟨?_, ?_⟩
      · rw [htext, hjoin, separator_append hname, List.intercalate_cons_cons]
        simp only [List.append_assoc]
      · rw [hcomp, components_joinChars hname, List.append_assoc, List.singleton_append]

end FileServer.Path
