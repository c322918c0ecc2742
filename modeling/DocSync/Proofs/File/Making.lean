import DocSync.Proofs.File.Tree
import Mathlib.Data.List.Induction

/-! # Making directories and opening files

  Following a path only asks for directories, so a path that leads to a directory
  leads to the same one in every tree that has all directories of the first:
  `locate_of_directoriesStay`.

  - `Paved` sums up all that making directories changes, for a call that ends well
    and for one that is stopped: `paved_makeDirectories`.
  - `isDirectory_of_makeDirectories` says what a call that ends well has reached, and
    `makeDirectories_of_isDirectory` that it does nothing the second time.
  - `openFile_eq_ok_iff` says when a file can be opened, and what that changes.
-/

namespace DocSync.File.Tree

open DocSync.File.Path (Component)
open Text.Utf8 (encode)

variable {t made complete opened : Tree} {start dir p q : Place} {name : Name} {text : String}
  {front path before : List Component} {c : Component} {places : List Place} {fault : Fault}

/-! ### Following paths -/

theorem locate_concat_eq_ok_iff :
    t.locate start (path ++ [c]) = .ok p ↔
      ∃ q, t.locate start path = .ok q ∧ t.follow q c = .ok p := by
  unfold locate
  rw [List.foldlM_append]
  cases path.foldlM t.follow start with
  | error fault => simp [bind, Except.bind]
  | ok q => simp [bind, Except.bind, pure, Except.pure]; grind

theorem isDirectoryAt_of_follow (h : t.follow q c = .ok p) : t.isDirectoryAt q := by
  unfold follow at h
  unfold isDirectoryAt
  grind

theorem follow_name_eq_ok_iff :
    t.follow dir (.name text) = .ok p ↔
      t.isDirectoryAt dir ∧ (encode text).length ≤ maxName ∧ p = dir ++ [encode text] ∧
        t.node? p ≠ none := by
  unfold follow isDirectoryAt
  grind [Option.isSome_iff_ne_none]

/-- A path that leads to a directory leads to it in every tree in which all
    directories stay. -/
theorem locate_of_directoriesStay (hstay : DirectoriesStay t made)
    (h : t.locate start path = .ok p) (hp : t.isDirectoryAt p) :
    made.locate start path = .ok p := by
  induction path using List.reverseRecOn generalizing p with
  | nil => exact h
  | append_singleton path c ih =>
    obtain ⟨q, hq, hfollow⟩ := locate_concat_eq_ok_iff.1 h
    have hdir := isDirectoryAt_of_follow hfollow
    refine locate_concat_eq_ok_iff.2 ⟨q, ih hq hdir, ?_⟩
    obtain ⟨isSealed, hnode⟩ := isDirectoryAt_iff.1 (hstay.isDirectoryAt hdir)
    obtain ⟨wasSealed, hold⟩ := isDirectoryAt_iff.1 hdir
    cases c with
    | name text =>
      obtain ⟨-, hlength, rfl, -⟩ := follow_name_eq_ok_iff.1 hfollow
      obtain ⟨isSealed', hnode'⟩ := isDirectoryAt_iff.1 (hstay.isDirectoryAt hp)
      exact follow_name_eq_ok_iff.2
        ⟨hstay.isDirectoryAt hdir, hlength, rfl, by simp [hnode']⟩
    | root | here | up =>
      simpa [follow, hnode, hold] using hfollow

theorem isDirectory_iff :
    t.isDirectory start path ↔ ∃ dir, t.locate start path = .ok dir ∧ t.isDirectoryAt dir := by
  unfold isDirectory
  cases t.locate start path <;> simp

/-! ### New places -/

theorem newPlace_eq_ok_iff :
    t.newPlace dir name = .ok p ↔
      t.node? dir = some (.directory false) ∧ name.length ≤ maxName ∧ p = dir ++ [name] ∧
        t.node? p = none := by
  unfold newPlace
  grind [Option.isSome_iff_ne_none]

theorem newPlace_eq_exists_iff :
    t.newPlace dir name = .error .exists ↔
      t.isDirectoryAt dir ∧ name.length ≤ maxName ∧ t.node? (dir ++ [name]) ≠ none := by
  unfold newPlace isDirectoryAt
  grind [Option.isSome_iff_ne_none]

/-! ### Making one directory -/

/-- A directory that is made is new, in a directory, and all that is new. -/
theorem exists_of_makeDirectory (h : t.makeDirectory start path.reverse = .ok made) :
    ∃ before text dir, path = before ++ [.name text] ∧ t.locate start before = .ok dir ∧
      t.isDirectoryAt dir ∧ (encode text).length ≤ maxName ∧
      t.node? (dir ++ [encode text]) = none ∧
      made = t.add (dir ++ [encode text]) (.directory false) := by
  obtain rfl | ⟨before, c, rfl⟩ := List.eq_nil_or_concat path
  · cases h
  rw [List.concat_eq_append, List.reverse_append, List.reverse_singleton,
    List.singleton_append] at h
  cases hdir : t.locate start before with
  | error fault => cases c <;> simp [makeDirectory, hdir, bind, Except.bind] at h
  | ok dir =>
    cases c with
    | name text =>
      simp only [makeDirectory, List.reverse_reverse, hdir, bind, Except.bind] at h
      cases hnew : t.newPlace dir (encode text) with
      | error fault => simp [hnew] at h
      | ok p =>
        obtain ⟨hsealed, hlength, rfl, hnone⟩ := newPlace_eq_ok_iff.1 hnew
        simp only [hnew, pure, Except.pure, Except.ok.injEq] at h
        exact ⟨before, text, dir, by simp, hdir, isDirectoryAt_iff.2 ⟨_, hsealed⟩, hlength, hnone,
          h.symm⟩
    | root | here | up => simp [makeDirectory, hdir, bind, Except.bind] at h

/-- Where there is a directory already, it cannot be made. -/
theorem makeDirectory_of_isDirectory (hne : path ≠ []) (h : t.isDirectory start path) :
    t.makeDirectory start path.reverse = .error .exists := by
  obtain ⟨p, hp, hdir⟩ := isDirectory_iff.1 h
  obtain rfl | ⟨before, c, rfl⟩ := List.eq_nil_or_concat path
  · exact absurd rfl hne
  rw [List.concat_eq_append] at hp ⊢
  rw [List.reverse_append, List.reverse_singleton, List.singleton_append]
  obtain ⟨q, hq, hfollow⟩ := locate_concat_eq_ok_iff.1 hp
  cases c with
  | name text =>
    obtain ⟨hisdir, hlength, rfl, hnode⟩ := follow_name_eq_ok_iff.1 hfollow
    have hexists : t.newPlace q (encode text) = .error .exists :=
      newPlace_eq_exists_iff.2 ⟨hisdir, hlength, hnode⟩
    simp [makeDirectory, hq, hexists, bind, Except.bind]
  | root | here | up => simp [makeDirectory, hq, bind, Except.bind]

/-! ### Making all that is missing -/

/-- A tree with some more directories, all of them new and on the way along a path. -/
structure Paved (start : Place) (path : List Component) (t : Tree) (places : List Place)
    (made : Tree) : Prop where
  entries : made.entries = t.entries ++ places.map (·, .directory false)
  fresh : ∀ p ∈ places, t.node? p = none
  onTheWay : ∀ p ∈ places, ∃ front, front <+: path ∧ made.locate start front = .ok p

namespace Paved

theorem node?_of_mem (h : Paved start path t places made) (hp : p ∈ places) :
    made.node? p = some (.directory false) := by
  rw [node?_eq_some_iff (ne_root_of_node?_eq_none (h.fresh p hp)), h.entries]
  exact List.mem_append_right _ (List.mem_map_of_mem hp)

/-- Whatever there was stays as it was. -/
theorem node?_eq_some (h : Paved start path t places made) {n : Node} (hp : t.node? p = some n) :
    made.node? p = some n := by
  by_cases hroot : p = []
  · rw [hroot, node?_root] at hp ⊢
    exact hp
  · rw [node?_eq_some_iff hroot] at hp ⊢
    rw [h.entries]
    exact List.mem_append_left _ hp

theorem directoriesStay (h : Paved start path t places made) : DirectoriesStay t made :=
  fun _ _ hp => h.node?_eq_some hp

/-- Away from the new directories nothing has changed. -/
theorem node?_of_not_mem (h : Paved start path t places made) (hp : p ∉ places) :
    made.node? p = t.node? p := by
  by_cases hroot : p = []
  · rw [hroot, node?_root, node?_root]
  · apply Option.ext
    intro n
    rw [node?_eq_some_iff hroot, node?_eq_some_iff hroot, h.entries, List.mem_append]
    simp [hp]

/-- What is new are directories on the way. -/
theorem new (h : Paved start path t places made) {n : Node} (hnode : made.node? p = some n)
    (hfresh : t.node? p = none) :
    n = .directory false ∧ ∃ front, front <+: path ∧ made.locate start front = .ok p := by
  by_cases hp : p ∈ places
  · exact ⟨Option.some.inj (hnode.symm.trans (h.node?_of_mem hp)), h.onTheWay p hp⟩
  · simp [h.node?_of_not_mem hp, hfresh] at hnode

theorem filesIn (h : Paved start path t places made) (dir : Place) :
    made.filesIn dir = t.filesIn dir := filesIn_of_entries_eq h.entries dir

theorem refl (start : Place) (path : List Component) (t : Tree) : Paved start path t [] t :=
  ⟨by simp, by simp, by simp⟩

theorem trans {more : List Place} (h : Paved start front t places made)
    (h' : Paved start path made more complete) (hfront : front <+: path) :
    Paved start path t (places ++ more) complete := by
  refine ⟨?_, ?_, ?_⟩
  · rw [h'.entries, h.entries, List.map_append, List.append_assoc]
  · intro p hp
    obtain hp | hp := List.mem_append.1 hp
    · exact h.fresh p hp
    · have hnone := h'.fresh p hp
      cases hnode : t.node? p with
      | none => rfl
      | some n => simp [h.node?_eq_some hnode] at hnone
  · intro p hp
    obtain hp | hp := List.mem_append.1 hp
    · obtain ⟨way, hway, hlocate⟩ := h.onTheWay p hp
      have hdir : made.isDirectoryAt p := isDirectoryAt_iff.2 ⟨false, h.node?_of_mem hp⟩
      exact ⟨way, hway.trans hfront, locate_of_directoriesStay h'.directoriesStay hlocate hdir⟩
    · exact h'.onTheWay p hp

end Paved

theorem paved_makeDirectory (h : t.makeDirectory start path.reverse = .ok made) :
    ∃ p, Paved start path t [p] made ∧ made.locate start path = .ok p := by
  obtain ⟨before, text, dir, rfl, hdir, hisdir, hlength, hnone, rfl⟩ := exists_of_makeDirectory h
  have hstay := directoriesStay_add hnone (.directory false)
  have hlocate : (t.add (dir ++ [encode text]) (.directory false)).locate start
      (before ++ [.name text]) = .ok (dir ++ [encode text]) := by
    refine locate_concat_eq_ok_iff.2 ⟨dir, locate_of_directoriesStay hstay hdir hisdir, ?_⟩
    refine follow_name_eq_ok_iff.2 ⟨hstay.isDirectoryAt hisdir, hlength, rfl, ?_⟩
    simp [node?_add hnone]
  refine ⟨_, ⟨by rw [entries_add hnone]; rfl, by simpa using hnone, ?_⟩, hlocate⟩
  intro p hp
  obtain rfl := List.mem_singleton.1 hp
  exact ⟨_, List.prefix_rfl, hlocate⟩

/-- Whether it ends well or not, only directories on the way are made. -/
theorem paved_makeDirectories (t : Tree) (start : Place) (path : List Component) :
    ∃ places, Paved start path t places (t.makeDirectories start path.reverse).1 := by
  induction path using List.reverseRecOn generalizing t with
  | nil => exact ⟨[], Paved.refl start [] t⟩
  | append_singleton before c ih =>
    have hfront : before <+: before ++ [c] := List.prefix_append before [c]
    rw [List.reverse_append, List.reverse_singleton, List.singleton_append]
    have hone (t made : Tree) (h : t.makeDirectory start (c :: before.reverse) = .ok made) :
        ∃ places, Paved start (before ++ [c]) t places made := by
      have hmake : t.makeDirectory start (before ++ [c]).reverse = .ok made := by simpa using h
      obtain ⟨p, hpaved, -⟩ := paved_makeDirectory hmake
      exact ⟨[p], hpaved⟩
    unfold makeDirectories
    split
    · next made h => exact hone t made h
    · -- What is missing before the last component is made first.
      obtain ⟨places, hbefore⟩ := ih t
      split
      · next made fault hmade =>
        rw [hmade] at hbefore
        exact ⟨_, hbefore.trans (Paved.refl start _ made) hfront⟩
      · next made hmade =>
        rw [hmade] at hbefore
        split
        · next complete h =>
          obtain ⟨more, hmore⟩ := hone made complete h
          exact ⟨_, hbefore.trans hmore hfront⟩
        · exact ⟨_, hbefore.trans (Paved.refl start _ made) hfront⟩
    · exact ⟨[], Paved.refl start _ t⟩

/-- A call that ends well leads to a directory. -/
theorem isDirectory_of_makeDirectories (hne : path ≠ [])
    (h : t.makeDirectories start path.reverse = (made, none)) : made.isDirectory start path := by
  obtain rfl | ⟨before, c, rfl⟩ := List.eq_nil_or_concat path
  · exact absurd rfl hne
  rw [List.concat_eq_append] at h ⊢
  have hone {t made : Tree} (h : t.makeDirectory start (c :: before.reverse) = .ok made) :
      made.isDirectory start (before ++ [c]) := by
    have hmake : t.makeDirectory start (before ++ [c]).reverse = .ok made := by simpa using h
    obtain ⟨p, hpaved, hlocate⟩ := paved_makeDirectory hmake
    exact isDirectory_iff.2
      ⟨p, hlocate, isDirectoryAt_iff.2 ⟨false, hpaved.node?_of_mem (List.mem_singleton.2 rfl)⟩⟩
  rw [List.reverse_append, List.reverse_singleton, List.singleton_append] at h
  unfold makeDirectories at h
  split at h
  · next made' hmade =>
    obtain rfl := (Prod.mk.inj h).1
    exact hone hmade
  · split at h
    · cases (Prod.mk.inj h).2
    · split at h
      · next complete hcomplete =>
        obtain rfl := (Prod.mk.inj h).1
        exact hone hcomplete
      · -- It counts as made if it is there after all.
        obtain ⟨rfl, hfault⟩ := Prod.mk.inj h
        simpa using hfault
  · obtain ⟨rfl, hfault⟩ := Prod.mk.inj h
    simpa using hfault

/-- Where the directory is there already, nothing is made. -/
theorem makeDirectories_of_isDirectory (h : t.isDirectory start path) :
    t.makeDirectories start path.reverse = (t, none) := by
  by_cases hne : path = []
  · subst hne
    rfl
  · have hexists := makeDirectory_of_isDirectory hne h
    obtain ⟨before, c, rfl⟩ := (List.eq_nil_or_concat path).resolve_left hne
    rw [List.concat_eq_append] at h hexists ⊢
    rw [List.reverse_append, List.reverse_singleton, List.singleton_append] at hexists ⊢
    simp [makeDirectories, hexists, h]

/-- A path that another one begins with is no worse as a text. -/
theorem pathFault?_eq_none_of_prefix {front path : String} (h : front.toList <+: path.toList)
    (hpath : pathFault? path = none) : pathFault? front = none := by
  obtain ⟨rest, hrest⟩ := h
  have hlength : (encode front).length ≤ (encode path).length := by
    rw [encode, encode, ← hrest, List.flatMap_append, List.length_append]
    exact Nat.le_add_right _ _
  unfold pathFault? at hpath ⊢
  rw [← hrest] at hpath
  grind

theorem ensureDirectory_eq_none_iff {path : String} :
    t.ensureDirectory start path = (made, none) ↔
      pathFault? path = none ∧
        t.makeDirectories start (Path.components path).reverse = (made, none) := by
  unfold ensureDirectory
  cases pathFault? path <;> simp

/-- Whether it ends well or not, only directories on the way are made. -/
theorem paved_ensureDirectory (t : Tree) (start : Place) (path : String) :
    ∃ places, Paved start (Path.components path) t places (t.ensureDirectory start path).1 := by
  unfold ensureDirectory
  cases pathFault? path with
  | some fault => exact ⟨[], Paved.refl _ _ t⟩
  | none => exact paved_makeDirectories t start (Path.components path)

/-! ### Opening a file -/

/-- A file can be opened in a directory if it is there, or if there is nothing in its
    place and the directory admits something new. It is empty if it is new. -/
theorem openFile_eq_ok_iff {path : String} (hpath : Path.components path = before ++ [.name text]) :
    t.openFile start path = .ok (opened, p) ↔
      pathFault? path = none ∧ (encode text).length ≤ maxName ∧
        ∃ dir, t.locate start before = .ok dir ∧ t.isDirectoryAt dir ∧ p = dir ++ [encode text] ∧
          (t.node? dir = some (.directory false) ∧ t.node? p = none ∧ opened = t.add p (.file []) ∨
            ∃ contents, t.node? p = some (.file contents) ∧ opened = t) := by
  unfold openFile
  cases pathFault? path with
  | some fault => simp
  | none =>
    simp only [hpath, List.reverse_append, List.reverse_singleton, List.singleton_append,
      List.reverse_reverse, true_and]
    cases hdir : t.locate start before with
    | error fault => simp [bind, Except.bind]
    | ok dir =>
      simp only [bind, Except.bind, Except.ok.injEq, exists_eq_left']
      cases hnew : t.newPlace dir (encode text) with
      | ok q =>
        obtain ⟨hopen, hlength, rfl, hnone⟩ := newPlace_eq_ok_iff.1 hnew
        have hisdir : t.isDirectoryAt dir := isDirectoryAt_iff.2 ⟨_, hopen⟩
        simp only [pure, Except.pure, Except.ok.injEq, Prod.mk.injEq]
        constructor
        · rintro ⟨rfl, rfl⟩
          exact ⟨hlength, hisdir, rfl, Or.inl ⟨hopen, hnone, rfl⟩⟩
        · rintro ⟨-, -, rfl, ⟨-, -, rfl⟩ | ⟨contents, hfile, -⟩⟩
          · exact ⟨rfl, rfl⟩
          · simp [hnone] at hfile
      | error fault =>
        constructor
        · intro h
          by_cases hexists : fault = .exists
          · subst hexists
            obtain ⟨hisdir, hlength, -⟩ := newPlace_eq_exists_iff.1 hnew
            simp only at h
            split at h
            · next contents hfile =>
              obtain ⟨rfl, rfl⟩ := Prod.mk.inj (Except.ok.inj h)
              exact ⟨hlength, hisdir, rfl, Or.inr ⟨contents, hfile, rfl⟩⟩
            · cases h
          · simp at h
        · rintro ⟨hlength, hisdir, rfl, ⟨hopen, hnone, -⟩ | ⟨contents, hfile, rfl⟩⟩
          · have hok := newPlace_eq_ok_iff.2 ⟨hopen, hlength, rfl, hnone⟩
            simp [hnew] at hok
          · have hexists := newPlace_eq_exists_iff.2 ⟨hisdir, hlength, by simp [hfile]⟩
            obtain rfl := Except.error.inj (hnew.symm.trans hexists)
            simp [hfile, pure, Except.pure]

end DocSync.File.Tree
