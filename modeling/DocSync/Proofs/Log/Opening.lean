import DocSync.Log.Appender
import DocSync.Proofs.File.Making
import DocSync.Proofs.File.Path
import DocSync.Proofs.Text.Utf8

/-! # Opening a log file

  The parts of an opening, each for itself: which files give way, which ones belong to
  the log, what the file of a day is called, and what is new in the end.

  - `mem_ownFiles_iff` and the lemmas after it say which files belong to the log after
    each change of a tree.
  - `openLog_eq_ok_iff` says when an opening ends well.
  - `located_of_openLog` says where today's file is then, and `new_of_openLog` that an
    opening makes nothing but that file and directories on the way to it.
-/

namespace DocSync.Log.Appender

open File (Tree)
open File.Path (components IsName)
open File.Tree (DirectoriesStay Paved pathFault? maxName)
open Text.Utf8 (encode)

variable {a : Appender} {path date : String} {start dir p today : File.Place}
  {t made opened : Tree}

/-! ### Those that give way -/

section expired
variable {α : Type} {files : List α} {x : α}

/-- Those that are left are the newest ones. -/
def surviving (files : List α) : List α := files.drop (files.length - (maxFiles - 1))

theorem expired_append_surviving (files : List α) : expired files ++ surviving files = files :=
  List.take_append_drop _ files

theorem length_surviving_le (files : List α) : (surviving files).length ≤ maxFiles - 1 := by
  rw [surviving, List.length_drop]
  omega

theorem expired_eq_nil (h : files.length ≤ maxFiles - 1) : expired files = [] := by
  rw [expired, Nat.sub_eq_zero_of_le h, List.take_zero]

theorem filter_not_mem_expired {files : List File.Place} (h : files.Nodup) :
    files.filter (· ∉ expired files) = surviving files := by
  have hapart : List.Disjoint (expired files) (surviving files) :=
    List.disjoint_of_nodup_append (by rwa [expired_append_surviving])
  have hall : (surviving files).filter (· ∉ expired files) = surviving files := by
    rw [List.filter_eq_self]
    intro x hx
    simpa using fun hmem => hapart hmem hx
  have hnone : (expired files).filter (· ∉ expired files) = [] := by
    rw [List.filter_eq_nil_iff]
    intro x hx
    simp [hx]
  have hsplit := List.filter_append (expired files) (surviving files) (p := (· ∉ expired files))
  rw [expired_append_surviving, hnone, hall, List.nil_append] at hsplit
  exact hsplit

/-- The newest never gives way. -/
theorem not_mem_expired_of_getLast? (h : files.Nodup) (hlast : files.getLast? = some x) :
    x ∉ expired files := by
  intro hx
  obtain ⟨before, rfl⟩ := List.getLast?_eq_some_iff.1 hlast
  have hfront : x ∈ before := by
    rw [expired, List.take_append_of_le_length (by simp [maxFiles])] at hx
    exact List.mem_of_mem_take hx
  exact (List.nodup_append.1 h).2.2 x hfront x (by simp) rfl

end expired

/-! ### The files of a log -/

theorem mem_ownFiles_iff :
    p ∈ a.ownFiles t dir ↔
      ∃ name, p = dir ++ [name] ∧ a.owns name ∧ ∃ contents, t.node? p = some (.file contents) := by
  rw [ownFiles, List.mem_map]
  constructor
  · rintro ⟨⟨q, name⟩, hmem, rfl⟩
    obtain ⟨hmem, howns⟩ := List.mem_filter.1 hmem
    obtain ⟨hq, hfile⟩ := Tree.mem_filesIn_iff.1 hmem
    exact ⟨name, hq, howns, hfile⟩
  · rintro ⟨name, hp, howns, hfile⟩
    exact ⟨(p, name), List.mem_filter.2 ⟨Tree.mem_filesIn_iff.2 ⟨hp, hfile⟩, howns⟩, rfl⟩

theorem ownFiles_sublist (a : Appender) (t : Tree) (dir : File.Place) :
    (a.ownFiles t dir).Sublist (t.entries.map Prod.fst) :=
  (List.filter_sublist.map Prod.fst).trans (Tree.filesIn_sublist t dir)

theorem ownFiles_nodup (a : Appender) (t : Tree) (dir : File.Place) : (a.ownFiles t dir).Nodup :=
  t.nodup.sublist (ownFiles_sublist a t dir)

theorem ownFiles_congr {t' : Tree} (h : t'.filesIn dir = t.filesIn dir) :
    a.ownFiles t' dir = a.ownFiles t dir := by
  rw [ownFiles, ownFiles, h]

theorem ownFiles_add {name : File.Name} (howns : a.owns name)
    (h : t.node? (dir ++ [name]) = none) (contents : List UInt8) :
    a.ownFiles (t.add (dir ++ [name]) (.file contents)) dir =
      a.ownFiles t dir ++ [dir ++ [name]] := by
  rw [ownFiles, Tree.filesIn_add_file h, List.filter_append, List.map_append, ← ownFiles]
  simp [howns]

theorem ownFiles_remove (a : Appender) (t : Tree) (places : List File.Place) (dir : File.Place) :
    a.ownFiles (t.remove places) dir = (a.ownFiles t dir).filter (· ∉ places) := by
  rw [ownFiles, ownFiles, Tree.filesIn_remove, List.filter_map, List.filter_filter,
    List.filter_filter]
  congr 2
  funext file
  exact Bool.and_comm _ _

/-- A tree without the files that give way. -/
def pruned (a : Appender) (dir : File.Place) (t : Tree) : Tree :=
  t.remove (expired (a.ownFiles t dir))

theorem ownFiles_pruned (a : Appender) (dir : File.Place) (t : Tree) :
    a.ownFiles (a.pruned dir t) dir = surviving (a.ownFiles t dir) := by
  rw [pruned, ownFiles_remove, filter_not_mem_expired (ownFiles_nodup a t dir)]

theorem isFile_of_mem_expired (h : p ∈ expired (a.ownFiles t dir)) :
    ∃ contents, t.node? p = some (.file contents) := by
  obtain ⟨-, -, -, hfile⟩ := mem_ownFiles_iff.1 (List.mem_of_mem_take h)
  exact hfile

theorem directoriesStay_pruned (a : Appender) (dir : File.Place) (t : Tree) :
    DirectoriesStay t (a.pruned dir t) :=
  Tree.directoriesStay_remove fun _ => isFile_of_mem_expired

theorem node?_pruned_of_mem (h : p ∈ expired (a.ownFiles t dir)) :
    (a.pruned dir t).node? p = none := by
  obtain ⟨contents, hfile⟩ := isFile_of_mem_expired h
  rw [pruned, Tree.node?_remove t _ (Tree.ne_root_of_file hfile), if_pos h]

theorem node?_pruned_of_not_mem (h : p ∉ expired (a.ownFiles t dir)) :
    (a.pruned dir t).node? p = t.node? p := by
  by_cases hroot : p = []
  · rw [hroot, Tree.node?_root, Tree.node?_root]
  · rw [pruned, Tree.node?_remove t _ hroot, if_neg h]

theorem node?_of_node?_pruned {n : File.Node} (h : (a.pruned dir t).node? p = some n) :
    t.node? p = some n := by
  have hkept : p ∉ expired (a.ownFiles t dir) := by
    intro hmem
    simp [node?_pruned_of_mem hmem] at h
  rwa [node?_pruned_of_not_mem hkept] at h

/-! ### The file of a day -/

def dayName (a : Appender) (date : String) : File.Name := encode (a.fileName ++ "." ++ date)

theorem owns_dayName (a : Appender) (date : String) : a.owns (a.dayName date) := by
  rw [owns, dayName, Text.Utf8.decode?_encode]
  simp [List.isPrefixOf_iff_prefix, List.append_assoc]

/-- The file of a day is named as it can be, if the log file and the date are. -/
theorem isName_day (h : IsName a.fileName) (hdate : '/' ∉ date.toList) :
    IsName (a.fileName ++ "." ++ date) := by
  have hne : a.fileName.toList ≠ [] := fun hempty => h.ne_empty (String.toList_inj.1 hempty)
  have hlist : (a.fileName ++ "." ++ date).toList = a.fileName.toList ++ '.' :: date.toList := by
    simp
  refine ⟨?_, ?_, ?_, ?_⟩
  · rw [hlist, List.mem_append, List.mem_cons]
    rintro (hmem | hslash | hmem)
    · exact h.not_mem hmem
    · cases hslash
    · exact hdate hmem
  all_goals
    intro heq
    rw [← String.toList_inj, hlist] at heq
    have hhere := mt String.toList_inj.1 h.ne_here
    -- The name of the log file stands in front of the point, and is no point itself.
    obtain ⟨c, rest, hname⟩ := List.exists_cons_of_ne_nil hne
    rw [hname] at heq hhere
    cases rest <;> simp_all

theorem isName_fileName (path : String) : IsName (ofLogFile path).fileName := by
  unfold ofLogFile
  cases hname : File.Path.fileName? path with
  | none =>
    have hdefault : IsName Settings.logFileName :=
      ⟨by decide, by decide, by decide, by decide⟩
    exact hdefault
  | some name => exact File.Path.isName_of_fileName? hname

/-- The file of a day is in the directory of the log files. -/
theorem components_filePath (path : String) (hdate : '/' ∉ date.toList) :
    components ((ofLogFile path).filePath date) =
      components (ofLogFile path).directory ++
        [.name ((ofLogFile path).fileName ++ "." ++ date)] :=
  File.Path.components_join _ (isName_day (isName_fileName path) hdate)

def dayPlace (a : Appender) (date : String) (dir : File.Place) : File.Place :=
  dir ++ [a.dayName date]

/-- Today's file belongs to the log, if it is there. -/
theorem dayPlace_mem_ownFiles {contents : List UInt8}
    (h : t.node? (a.dayPlace date dir) = some (.file contents)) :
    a.dayPlace date dir ∈ a.ownFiles t dir :=
  mem_ownFiles_iff.2 ⟨_, rfl, owns_dayName a date, _, h⟩

theorem openFile_filePath_eq_ok_iff (path : String) (hdate : '/' ∉ date.toList) :
    t.openFile start ((ofLogFile path).filePath date) = .ok (opened, today) ↔
      pathFault? ((ofLogFile path).filePath date) = none ∧
        ((ofLogFile path).dayName date).length ≤ maxName ∧
          ∃ dir, t.locate start (components (ofLogFile path).directory) = .ok dir ∧
            t.isDirectoryAt dir ∧ today = (ofLogFile path).dayPlace date dir ∧
              (t.node? dir = some (.directory false) ∧ t.node? today = none ∧
                opened = t.add today (.file []) ∨
              ∃ contents, t.node? today = some (.file contents) ∧ opened = t) :=
  File.Tree.openFile_eq_ok_iff (components_filePath path hdate)

/-- There is a directory for the log files, unless the log file is a bare name. -/
theorem components_directory_ne_nil (hparent : File.Path.parent? path ≠ some "") :
    components (ofLogFile path).directory ≠ [] := by
  intro hnil
  have hempty := (File.Path.components_eq_nil_iff _).1 hnil
  unfold ofLogFile at hempty
  cases hdir : File.Path.parent? path with
  | none => simp [hdir] at hempty
  | some dir => exact hparent (by simpa [hdir] using hempty)

/-! ### The parts of an opening -/

theorem prune_eq (hne : components a.directory ≠ [])
    (hlocate : t.locate start (components a.directory) = .ok dir) :
    a.prune t start = a.pruned dir t := by
  unfold prune
  split
  · next hnil => exact absurd hnil hne
  · simp only [hlocate, pruned]

theorem openLog_eq_ok_iff :
    openLog path date t start = (opened, .ok today) ↔
      ∃ made, t.ensureDirectory start (ofLogFile path).directory = (made, none) ∧
        ((ofLogFile path).prune made start).openFile start ((ofLogFile path).filePath date) =
          .ok (opened, today) := by
  unfold openLog
  simp only
  cases t.ensureDirectory start (ofLogFile path).directory with
  | mk made fault? =>
    cases fault? with
    | some fault => simp
    | none =>
      cases hopen : ((ofLogFile path).prune made start).openFile start
          ((ofLogFile path).filePath date) with
      | error fault => simp [hopen]
      | ok result => simp [hopen, Prod.ext_iff]

/-- Only files give way. -/
theorem prune_cases (a : Appender) (t : Tree) (start : File.Place) :
    a.prune t start = t ∨ ∃ dir, a.prune t start = a.pruned dir t := by
  unfold prune
  split
  · exact Or.inl rfl
  · split
    · next dir _ => exact Or.inr ⟨dir, rfl⟩
    · exact Or.inl rfl

theorem directoriesStay_prune (a : Appender) (t : Tree) (start : File.Place) :
    DirectoriesStay t (a.prune t start) := by
  obtain hsame | ⟨dir, hpruned⟩ := prune_cases a t start
  · rw [hsame]
    exact fun _ _ hp => hp
  · rw [hpruned]
    exact directoriesStay_pruned a dir t

theorem node?_of_node?_prune {n : File.Node} (h : (a.prune t start).node? p = some n) :
    t.node? p = some n := by
  obtain hsame | ⟨dir, hpruned⟩ := prune_cases a t start
  · rwa [hsame] at h
  · rw [hpruned] at h
    exact node?_of_node?_pruned h

/-- An opening that ends well leads to the directory, and today's file is in it. -/
theorem located_of_openLog (hdate : '/' ∉ date.toList)
    (h : openLog path date t start = (opened, .ok today)) :
    ∃ dir, opened.locate start (components (ofLogFile path).directory) = .ok dir ∧
      opened.isDirectoryAt dir ∧ today = (ofLogFile path).dayPlace date dir := by
  obtain ⟨made, -, hopen⟩ := openLog_eq_ok_iff.1 h
  -- What has given way before does not matter here.
  generalize (ofLogFile path).prune made start = left at hopen
  obtain ⟨-, -, dir, hlocate, hisdir, rfl, ⟨-, hnone, rfl⟩ | ⟨contents, -, rfl⟩⟩ :=
    (openFile_filePath_eq_ok_iff path hdate).1 hopen
  · have hstay := File.Tree.directoriesStay_add hnone (.file [])
    exact ⟨dir, File.Tree.locate_of_directoriesStay hstay hlocate hisdir,
      hstay.isDirectoryAt hisdir, rfl⟩
  · exact ⟨dir, hlocate, hisdir, rfl⟩

/-- Whether it ends well or not, an opening makes nothing but today's file and directories
    on the way to it. -/
theorem new_of_openLog (path : String) (hdate : '/' ∉ date.toList) (t : Tree)
    (start p : File.Place) (n : File.Node)
    (hnode : (openLog path date t start).1.node? p = some n)
    (hfresh : t.node? p = none) :
    (openLog path date t start).2 = .ok p ∨
      n = .directory false ∧ ∃ front, front <+: components (ofLogFile path).directory ∧
        (openLog path date t start).1.locate start front = .ok p := by
  obtain ⟨places, hpaved⟩ := File.Tree.paved_ensureDirectory t start (ofLogFile path).directory
  -- What is left when the old files have given way.
  have hpruned {made : Tree}
      (hpaved : Paved start (components (ofLogFile path).directory) t places made)
      (hnode : ((ofLogFile path).prune made start).node? p = some n) :
      n = .directory false ∧ ∃ front, front <+: components (ofLogFile path).directory ∧
        ((ofLogFile path).prune made start).locate start front = .ok p := by
    obtain ⟨rfl, front, hfront, hlocate⟩ := hpaved.new (node?_of_node?_prune hnode) hfresh
    refine ⟨rfl, front, hfront, ?_⟩
    exact File.Tree.locate_of_directoriesStay (directoriesStay_prune _ made start) hlocate
      (File.Tree.isDirectoryAt_iff.2 ⟨_, node?_of_node?_prune hnode⟩)
  cases hensure : t.ensureDirectory start (ofLogFile path).directory with
  | mk made fault? =>
    rw [hensure] at hpaved
    cases fault? with
    | some fault =>
      simp only [openLog, hensure] at hnode ⊢
      exact Or.inr (hpaved.new hnode hfresh)
    | none =>
      cases hopen : ((ofLogFile path).prune made start).openFile start
          ((ofLogFile path).filePath date) with
      | error fault =>
        simp only [openLog, hensure, hopen] at hnode ⊢
        exact Or.inr (hpruned hpaved hnode)
      | ok result =>
        simp only [openLog, hensure, hopen] at hnode ⊢
        obtain ⟨-, -, dir, -, -, -, ⟨-, hnone, hadd⟩ | ⟨contents, -, hsame⟩⟩ :=
          (openFile_filePath_eq_ok_iff path hdate).1 hopen
        · rw [hadd] at hnode ⊢
          by_cases htoday : p = result.2
          · exact Or.inl (by rw [htoday])
          · rw [File.Tree.node?_add hnone, if_neg htoday] at hnode
            obtain ⟨rfl, front, hfront, hlocate⟩ := hpruned hpaved hnode
            refine Or.inr ⟨rfl, front, hfront, ?_⟩
            exact File.Tree.locate_of_directoriesStay
              (File.Tree.directoriesStay_add hnone (.file [])) hlocate
              (File.Tree.isDirectoryAt_iff.2 ⟨_, hnode⟩)
        · rw [hsame] at hnode ⊢
          exact Or.inr (hpruned hpaved hnode)

end DocSync.Log.Appender
