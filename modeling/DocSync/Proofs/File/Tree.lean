import DocSync.File.Tree
import Mathlib.Data.List.Nodup

/-! # Views of a tree

  What is at a place, and which files are in a directory, after each of the three
  ways to change a tree. As names are never listed twice, a place that is not the
  root has what is listed for it: `node?_eq_some_iff`.

  - `node?_add`, `node?_remove`, `node?_append_self` and `node?_append_of_ne` say what
    is at a place afterwards.
  - `mem_filesIn_iff` says which files are in a directory.
  - `Older` is the order in which things were made, which listing a directory keeps.
-/

namespace DocSync.File.Tree

variable {t made : Tree} {p q dir : Place} {n : Node} {name : Name}

/-! ### What is at a place -/

/-- Where no key is listed twice, the value of a key is the one that is listed. -/
theorem lookup_eq_some_iff_mem {entries : List (Place × Node)}
    (hnodup : (entries.map Prod.fst).Nodup) :
    entries.lookup p = some n ↔ (p, n) ∈ entries := by
  induction entries with
  | nil => simp
  | cons entry entries ih =>
    obtain ⟨hfresh, hnodup⟩ := List.nodup_cons.1 (List.map_cons ▸ hnodup)
    rw [List.lookup_cons, List.mem_cons]
    by_cases hkey : p = entry.1
    · have hrest : (p, n) ∉ entries := fun hmem => hfresh (hkey ▸ List.mem_map_of_mem hmem)
      simp [hkey, Prod.ext_iff, hkey ▸ hrest, eq_comm]
    · have hbeq : (p == entry.1) = false := beq_false_of_ne hkey
      rw [hbeq, ih hnodup]
      simp [Prod.ext_iff, hkey]

theorem node?_root (t : Tree) : t.node? [] = some (.directory false) := rfl

theorem node?_eq_some_iff (hp : p ≠ []) : t.node? p = some n ↔ (p, n) ∈ t.entries := by
  rw [node?, if_neg hp, lookup_eq_some_iff_mem t.nodup]

theorem ne_root_of_node?_eq_none (h : t.node? p = none) : p ≠ [] := by
  rintro rfl
  cases h

theorem ne_root_of_file {contents : List UInt8} (h : t.node? p = some (.file contents)) :
    p ≠ [] := by
  rintro rfl
  cases h

theorem mem_keys_iff (hp : p ≠ []) : p ∈ t.entries.map Prod.fst ↔ t.node? p ≠ none := by
  rw [Option.ne_none_iff_exists', List.mem_map]
  constructor
  · rintro ⟨entry, hmem, rfl⟩
    exact ⟨entry.2, (node?_eq_some_iff hp).2 hmem⟩
  · rintro ⟨n, hn⟩
    exact ⟨(p, n), (node?_eq_some_iff hp).1 hn, rfl⟩

theorem isDirectoryAt_iff :
    t.isDirectoryAt p ↔ ∃ isSealed, t.node? p = some (.directory isSealed) := by
  unfold isDirectoryAt
  split
  · next isSealed hn => simp [hn]
  · next hn => simpa using hn

/-! ### Changing a tree -/

theorem entries_add (h : t.node? p = none) (n : Node) :
    (t.add p n).entries = t.entries ++ [(p, n)] := by
  have hfresh : p ∉ t.entries.map Prod.fst := by
    rw [mem_keys_iff (ne_root_of_node?_eq_none h), not_not]
    exact h
  rw [add, dif_neg hfresh]

theorem node?_add (h : t.node? p = none) (n : Node) (q : Place) :
    (t.add p n).node? q = if q = p then some n else t.node? q := by
  by_cases hroot : q = []
  · subst hroot
    rw [node?_root, node?_root, if_neg (ne_root_of_node?_eq_none h).symm]
  · have hlookup : t.entries.lookup p = none := by
      rwa [node?, if_neg (ne_root_of_node?_eq_none h)] at h
    rw [node?, if_neg hroot, node?, if_neg hroot, entries_add h, List.lookup_append]
    by_cases hq : q = p
    · simp [hq, hlookup]
    · have hbeq : (q == p) = false := beq_false_of_ne hq
      simp [List.lookup_cons, hbeq, hq]

theorem node?_remove (t : Tree) (places : List Place) {q : Place} (hq : q ≠ []) :
    (t.remove places).node? q = if q ∈ places then none else t.node? q := by
  apply Option.ext
  intro n
  rw [node?_eq_some_iff hq, remove, List.mem_filter]
  by_cases hmem : q ∈ places
  · simp [hmem]
  · simp [hmem, node?_eq_some_iff hq]

theorem node?_append_of_ne (t : Tree) (bytes : List UInt8) (hq : q ≠ p) :
    (t.append p bytes).node? q = t.node? q := by
  by_cases hroot : q = []
  · rw [hroot, node?_root, node?_root]
  apply Option.ext
  intro n
  rw [node?_eq_some_iff hroot, node?_eq_some_iff hroot, append, List.mem_map]
  constructor
  · rintro ⟨⟨key, node⟩, hmem, heq⟩
    obtain ⟨rfl, rfl⟩ := Prod.ext_iff.1 heq
    cases node <;> simpa [hq] using hmem
  · intro hmem
    refine ⟨(q, n), hmem, ?_⟩
    cases n <;> simp [hq]

theorem node?_append_self {contents : List UInt8} (h : t.node? p = some (.file contents))
    (bytes : List UInt8) :
    (t.append p bytes).node? p = some (.file (contents ++ bytes)) := by
  have hroot := ne_root_of_file h
  rw [node?_eq_some_iff hroot] at h ⊢
  rw [append, List.mem_map]
  exact ⟨_, h, by simp⟩

theorem node?_append_directory {isSealed : Bool} (h : t.node? q = some (.directory isSealed))
    (p : Place) (bytes : List UInt8) :
    (t.append p bytes).node? q = some (.directory isSealed) := by
  by_cases hroot : q = []
  · rw [hroot, node?_root] at h ⊢
    exact h
  · rw [node?_eq_some_iff hroot] at h ⊢
    rw [append, List.mem_map]
    exact ⟨_, h, rfl⟩

/-! ### Directories -/

/-- Every directory of a tree is one in another tree as well. -/
def DirectoriesStay (t made : Tree) : Prop :=
  ∀ p isSealed, t.node? p = some (.directory isSealed) →
    made.node? p = some (.directory isSealed)

theorem DirectoriesStay.isDirectoryAt (h : DirectoriesStay t made) (hp : t.isDirectoryAt p) :
    made.isDirectoryAt p := by
  rw [isDirectoryAt_iff] at *
  obtain ⟨isSealed, hp⟩ := hp
  exact ⟨isSealed, h p isSealed hp⟩

theorem directoriesStay_add (h : t.node? p = none) (n : Node) :
    DirectoriesStay t (t.add p n) := by
  intro q isSealed hq
  have hne : q ≠ p := by
    rintro rfl
    simp [h] at hq
  rw [node?_add h, if_neg hne, hq]

/-- Only files are taken away. -/
theorem directoriesStay_remove {places : List Place}
    (h : ∀ p ∈ places, ∃ contents, t.node? p = some (.file contents)) :
    DirectoriesStay t (t.remove places) := by
  intro q isSealed hq
  by_cases hroot : q = []
  · rw [hroot, node?_root] at hq ⊢
    exact hq
  · have hnot : q ∉ places := by
      intro hmem
      obtain ⟨contents, hfile⟩ := h q hmem
      simp [hfile] at hq
    rw [node?_remove t places hroot, if_neg hnot, hq]

/-! ### The files in a directory -/

/-- What is listed of an entry in a directory. -/
def fileOf (dir : Place) (entry : Place × Node) : Option (Place × Name) :=
  match entry.2, entry.1.getLast? with
  | .file _, some name => if entry.1.dropLast = dir then some (entry.1, name) else none
  | _, _ => none

theorem filesIn_eq (t : Tree) (dir : Place) : t.filesIn dir = t.entries.filterMap (fileOf dir) :=
  rfl

theorem fileOf_eq_some_iff {entry : Place × Node} :
    fileOf dir entry = some (p, name) ↔
      p = dir ++ [name] ∧ ∃ contents, entry = (p, .file contents) := by
  obtain ⟨key, node⟩ := entry
  cases node with
  | directory isSealed => simp [fileOf]
  | file contents =>
    cases hkey : key.getLast? with
    | none =>
      obtain rfl : key = [] := List.getLast?_eq_none_iff.1 hkey
      simp only [fileOf, hkey, Prod.mk.injEq, reduceCtorEq, false_iff]
      rintro ⟨hp, -, hkey, -⟩
      simp [← hkey] at hp
    | some last =>
      obtain ⟨before, rfl⟩ := List.getLast?_eq_some_iff.1 hkey
      simp only [fileOf, hkey, List.dropLast_concat]
      constructor
      · intro h
        by_cases hdir : before = dir
        · simp only [hdir, if_true, Option.some.injEq, Prod.mk.injEq] at h
          obtain ⟨rfl, rfl⟩ := h
          exact ⟨rfl, contents, by rw [hdir]⟩
        · simp [hdir] at h
      · rintro ⟨rfl, _, hkey⟩
        obtain ⟨rfl, hlast⟩ := List.append_inj' (Prod.mk.inj hkey).1 rfl
        simp [List.singleton_inj.1 hlast]

theorem mem_filesIn_iff :
    (p, name) ∈ t.filesIn dir ↔
      p = dir ++ [name] ∧ ∃ contents, t.node? p = some (.file contents) := by
  rw [filesIn_eq, List.mem_filterMap]
  constructor
  · rintro ⟨entry, hmem, hfile⟩
    obtain ⟨hp, contents, rfl⟩ := fileOf_eq_some_iff.1 hfile
    exact ⟨hp, contents, (node?_eq_some_iff (by simp [hp])).2 hmem⟩
  · rintro ⟨hp, contents, hn⟩
    exact ⟨_, (node?_eq_some_iff (by simp [hp])).1 hn, fileOf_eq_some_iff.2 ⟨hp, contents, rfl⟩⟩

/-- Where only directories were made, the files are those that were there. -/
theorem filesIn_of_entries_eq {places : List Place}
    (h : made.entries = t.entries ++ places.map (·, .directory false)) (dir : Place) :
    made.filesIn dir = t.filesIn dir := by
  have hnone : (places.map (·, Node.directory false)).filterMap (fileOf dir) = [] := by
    rw [List.filterMap_eq_nil_iff]
    intro entry hmem
    obtain ⟨p, -, rfl⟩ := List.mem_map.1 hmem
    rfl
  rw [filesIn_eq, filesIn_eq, h, List.filterMap_append, hnone, List.append_nil]

/-- A new file comes last. -/
theorem filesIn_add_file (h : t.node? (dir ++ [name]) = none) (contents : List UInt8) :
    (t.add (dir ++ [name]) (.file contents)).filesIn dir =
      t.filesIn dir ++ [(dir ++ [name], name)] := by
  have hfile : fileOf dir (dir ++ [name], .file contents) = some (dir ++ [name], name) :=
    fileOf_eq_some_iff.2 ⟨rfl, contents, rfl⟩
  rw [filesIn_eq, filesIn_eq, entries_add h, List.filterMap_append]
  simp [hfile]

theorem filesIn_remove (t : Tree) (places : List Place) (dir : Place) :
    (t.remove places).filesIn dir = (t.filesIn dir).filter (fun file => file.1 ∉ places) := by
  rw [filesIn_eq, filesIn_eq, remove, List.filterMap_filter, List.filter_filterMap]
  congr 1
  funext entry
  cases hentry : fileOf dir entry with
  | none => simp
  | some file =>
    obtain ⟨-, contents, rfl⟩ := fileOf_eq_some_iff.1 hentry
    simp [Option.filter]

theorem filesIn_append (t : Tree) (p : Place) (bytes : List UInt8) (dir : Place) :
    (t.append p bytes).filesIn dir = t.filesIn dir := by
  rw [filesIn_eq, filesIn_eq, append, List.filterMap_map]
  congr 1
  funext ⟨key, node⟩
  cases node with
  | directory isSealed => rfl
  | file contents =>
    by_cases hkey : key = p
    · cases hlast : p.getLast? <;> simp only [Function.comp_apply, fileOf, hkey, hlast, if_true]
    · simp only [Function.comp_apply, hkey, if_false]

/-! ### The order of making -/

/-- Something at one place was made before something at another. -/
def Older (t : Tree) (p q : Place) : Prop := [p, q].Sublist (t.entries.map Prod.fst)

/-- Files are listed in the order in which they were made. -/
theorem filesIn_sublist (t : Tree) (dir : Place) :
    ((t.filesIn dir).map Prod.fst).Sublist (t.entries.map Prod.fst) := by
  rw [filesIn_eq]
  induction t.entries with
  | nil => exact List.Sublist.slnil
  | cons entry entries ih =>
    cases hentry : fileOf dir entry with
    | none =>
      rw [List.filterMap_cons_none hentry, List.map_cons]
      exact ih.cons entry.1
    | some file =>
      obtain ⟨-, contents, rfl⟩ := fileOf_eq_some_iff.1 hentry
      rw [List.filterMap_cons_some hentry, List.map_cons, List.map_cons]
      exact ih.cons_cons file.1

/-- Of places in the order in which they were made, those in front are older. -/
theorem older_of_sublist {front back : List Place}
    (h : (front ++ back).Sublist (t.entries.map Prod.fst)) (hp : p ∈ front) (hq : q ∈ back) :
    t.Older p q := by
  have hpair : [p, q].Sublist (front ++ back) :=
    (List.singleton_sublist.2 hp).append (List.singleton_sublist.2 hq)
  exact hpair.trans h

end DocSync.File.Tree
