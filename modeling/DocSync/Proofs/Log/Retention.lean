import DocSync.Proofs.Log.Opening

/-! # Which log files are kept

  The program is started again and again on one day, and every time today's log file
  is opened and written to. The first time, so many old files give way that today's
  makes up the number; it may itself be among the oldest, and then it starts anew. The
  second time, today's file counts among the old ones, and one more of them may give way,
  but never today's own. From then on there is room for good.

  - `opens_of_openLog` says what an opening that ends well has done.
  - `Ready` is what holds from then on, and `openLog_of_ready` says that today's file can
    then be opened again, whatever was written in between.
  - `retention` sums up any number of runs.
-/

namespace DocSync.Log.Appender

open File (Tree)
open File.Path (components IsName)
open File.Tree (DirectoriesStay Paved pathFault? maxName)
open Text.Utf8 (encode)

variable {a : Appender} {path date : String} {start dir p today : File.Place}
  {t made opened : Tree}

/-! ### One opening -/

/-- Neither the paths of the log files nor the name of the file of a day is too long or
    has a character that it may not have. -/
structure Nameable (a : Appender) (date : String) : Prop where
  directory : pathFault? a.directory = none
  file : pathFault? (a.filePath date) = none
  name : (a.dayName date).length ≤ maxName

/-- An opening that ends well: what there is afterwards, against what there was. -/
structure Opens (a : Appender) (date : String) (start : File.Place) (t : Tree) (dir : File.Place)
    (opened : Tree) : Prop where
  nameable : a.Nameable date
  located : opened.locate start (components a.directory) = .ok dir
  isDirectory : opened.isDirectoryAt dir
  /-- Today's file is there. It is the one that was there, unless that one gave way. -/
  today : ∃ contents, opened.node? (a.dayPlace date dir) = some (.file contents) ∧
    (a.dayPlace date dir ∉ expired (a.ownFiles t dir) ∧
        t.node? (a.dayPlace date dir) = some (.file contents) ∨
      (t.node? (a.dayPlace date dir) = none ∨
        a.dayPlace date dir ∈ expired (a.ownFiles t dir)) ∧ contents = [])
  ownFiles : a.ownFiles opened dir = surviving (a.ownFiles t dir) ∨
    a.ownFiles opened dir = surviving (a.ownFiles t dir) ++ [a.dayPlace date dir]
  gone : ∀ p ∈ expired (a.ownFiles t dir), p ≠ a.dayPlace date dir → opened.node? p = none
  kept : ∀ p n, t.node? p = some n → p ∉ expired (a.ownFiles t dir) → opened.node? p = some n

/-- What was there is still there once the directory is made, unless it has given way. -/
theorem node?_pruned_of_paved {places : List File.Place} {n : File.Node}
    (hpaved : Paved start (components a.directory) t places made) (hnode : t.node? p = some n)
    (hp : p ∉ expired (a.ownFiles t dir)) : (a.pruned dir made).node? p = some n := by
  have hown : a.ownFiles made dir = a.ownFiles t dir := ownFiles_congr (hpaved.filesIn dir)
  rw [node?_pruned_of_not_mem (hown ▸ hp), hpaved.node?_eq_some hnode]

/-- What an opening that ends well has done: directories are made, files give way, and
    today's file is made unless it is there. -/
theorem opens_of_openLog (hparent : File.Path.parent? path ≠ some "")
    (hdate : '/' ∉ date.toList) (h : openLog path date t start = (opened, .ok today)) :
    ∃ dir, today = (ofLogFile path).dayPlace date dir ∧
      Opens (ofLogFile path) date start t dir opened := by
  have hne := components_directory_ne_nil hparent
  obtain ⟨made, hensure, hopen⟩ := openLog_eq_ok_iff.1 h
  obtain ⟨hfile, hname, dir, hlocate, hisdir, rfl, hcases⟩ :=
    (openFile_filePath_eq_ok_iff path hdate).1 hopen
  generalize ofLogFile path = a at *
  obtain ⟨places, hpaved⟩ := File.Tree.paved_ensureDirectory t start a.directory
  rw [hensure] at hpaved
  obtain ⟨hdirectory, hmake⟩ := File.Tree.ensureDirectory_eq_none_iff.1 hensure
  obtain ⟨dir', hmade, hmadedir⟩ :=
    File.Tree.isDirectory_iff.1 (File.Tree.isDirectory_of_makeDirectories hne hmake)
  rw [prune_eq hne hmade] at hlocate hisdir hcases
  -- Files that give way do not move the directory.
  obtain rfl : dir = dir' := by
    have hsame := File.Tree.locate_of_directoriesStay (directoriesStay_pruned a dir' made) hmade
      hmadedir
    exact Except.ok.inj (hlocate.symm.trans hsame)
  have hown : a.ownFiles made dir = a.ownFiles t dir := ownFiles_congr (hpaved.filesIn dir)
  have hpruned := ownFiles_pruned a dir made
  rw [hown] at hpruned
  have hnameable : a.Nameable date := ⟨hdirectory, hfile, hname⟩
  refine ⟨dir, rfl, ?_⟩
  -- All else is up to whether today's file is there when it is opened.
  obtain ⟨-, hnone, rfl⟩ | ⟨contents, hold, rfl⟩ := hcases
  · -- Today's file is new, or was among the oldest.
    have hstay := File.Tree.directoriesStay_add hnone (.file [])
    have hnode (q : File.Place) := File.Tree.node?_add hnone (.file []) q
    have habsent : t.node? (a.dayPlace date dir) = none ∨
        a.dayPlace date dir ∈ expired (a.ownFiles t dir) := by
      by_contra hnot
      obtain ⟨hthere, hkept⟩ := not_or.1 hnot
      obtain ⟨n, hthere⟩ := Option.ne_none_iff_exists'.1 hthere
      simp [node?_pruned_of_paved hpaved hthere hkept] at hnone
    refine ⟨hnameable, File.Tree.locate_of_directoriesStay hstay hlocate hisdir,
      hstay.isDirectoryAt hisdir, ⟨[], by rw [hnode, if_pos rfl], Or.inr ⟨habsent, rfl⟩⟩,
      Or.inr ?_, ?_, ?_⟩
    · rw [← hpruned]
      exact ownFiles_add (owns_dayName a date) hnone []
    · intro q hq hne
      rw [hnode, if_neg hne, node?_pruned_of_mem (hown ▸ hq)]
    · intro q n hq hkept
      have hq : (a.pruned dir made).node? q = some n := node?_pruned_of_paved hpaved hq hkept
      have hne : q ≠ a.dayPlace date dir := by
        rintro rfl
        simp [hnone] at hq
      rw [hnode, if_neg hne, hq]
  · -- Today's file is there and stays.
    have hkept : a.dayPlace date dir ∉ expired (a.ownFiles t dir) := by
      intro hmem
      have hgone := node?_pruned_of_mem (t := made) (hown ▸ hmem)
      simp [hold] at hgone
    have htoday : t.node? (a.dayPlace date dir) = some (.file contents) := by
      cases hwas : t.node? (a.dayPlace date dir) with
      | none =>
        -- What is new on the way are directories.
        obtain ⟨hdir, -⟩ := hpaved.new (node?_of_node?_pruned hold) hwas
        cases hdir
      | some n => exact (node?_pruned_of_paved hpaved hwas hkept).symm.trans hold
    refine ⟨hnameable, hlocate, hisdir, ⟨contents, hold, Or.inl ⟨hkept, htoday⟩⟩, Or.inl hpruned,
      ?_, ?_⟩
    · intro q hq _
      exact node?_pruned_of_mem (hown ▸ hq)
    · intro q n hq hkept
      exact node?_pruned_of_paved hpaved hq hkept

/-! ### Opening again -/

/-- What holds of a tree in which today's file has been opened. The newest file is
    today's, or there is room for one more. -/
structure Ready (a : Appender) (date : String) (start dir : File.Place) (t : Tree) : Prop where
  located : t.locate start (components a.directory) = .ok dir
  isDirectory : t.isDirectoryAt dir
  today : ∃ contents, t.node? (a.dayPlace date dir) = some (.file contents)
  room : (a.ownFiles t dir).length ≤ maxFiles - 1 ∨
    (a.ownFiles t dir).getLast? = some (a.dayPlace date dir)

theorem Opens.ready (h : Opens a date start t dir opened) : a.Ready date start dir opened := by
  obtain ⟨contents, htoday, -⟩ := h.today
  refine ⟨h.located, h.isDirectory, ⟨contents, htoday⟩, ?_⟩
  obtain hown | hown := h.ownFiles
  · exact Or.inl (hown ▸ length_surviving_le _)
  · exact Or.inr (by rw [hown, List.getLast?_concat])

theorem Ready.not_mem_expired (h : a.Ready date start dir t) :
    a.dayPlace date dir ∉ expired (a.ownFiles t dir) := by
  obtain hroom | hnewest := h.room
  · simp [expired_eq_nil hroom]
  · exact not_mem_expired_of_getLast? (ownFiles_nodup a t dir) hnewest

/-- Today's file is opened again with nothing made, whatever gives way. -/
theorem openLog_of_ready (hparent : File.Path.parent? path ≠ some "")
    (hdate : '/' ∉ date.toList) (hnameable : (ofLogFile path).Nameable date)
    (h : (ofLogFile path).Ready date start dir t) :
    openLog path date t start =
      ((ofLogFile path).pruned dir t, .ok ((ofLogFile path).dayPlace date dir)) := by
  have hne := components_directory_ne_nil hparent
  obtain ⟨contents, htoday⟩ := h.today
  have hstay := directoriesStay_pruned (ofLogFile path) dir t
  have hensure : t.ensureDirectory start (ofLogFile path).directory = (t, none) :=
    File.Tree.ensureDirectory_eq_none_iff.2 ⟨hnameable.directory,
      File.Tree.makeDirectories_of_isDirectory
        (File.Tree.isDirectory_iff.2 ⟨dir, h.located, h.isDirectory⟩)⟩
  refine openLog_eq_ok_iff.2 ⟨t, hensure, ?_⟩
  rw [prune_eq hne h.located]
  refine (openFile_filePath_eq_ok_iff path hdate).2 ⟨hnameable.file, hnameable.name, dir,
    File.Tree.locate_of_directoriesStay hstay h.located h.isDirectory,
    hstay.isDirectoryAt h.isDirectory, rfl, Or.inr ⟨contents, ?_, rfl⟩⟩
  rw [node?_pruned_of_not_mem h.not_mem_expired, htoday]

/-! ### Writing -/

/-- Writes at the end of a file, one after another. -/
def writeAll (p : File.Place) (t : Tree) (writes : List (List UInt8)) : Tree :=
  writes.foldl (·.append p) t

section writing
variable {contents : List UInt8} {n : File.Node}

theorem node?_writeAll (h : t.node? p = some (.file contents)) (writes : List (List UInt8)) :
    (writeAll p t writes).node? p = some (.file (contents ++ writes.flatten)) := by
  induction writes generalizing t contents with
  | nil => simpa [writeAll] using h
  | cons bytes writes ih =>
    rw [List.flatten_cons, ← List.append_assoc]
    exact ih (File.Tree.node?_append_self h bytes)

theorem node?_writeAll_of_ne {q : File.Place} (hq : q ≠ p) (writes : List (List UInt8)) :
    (writeAll p t writes).node? q = t.node? q := by
  induction writes generalizing t with
  | nil => rfl
  | cons bytes writes ih => exact ih.trans (File.Tree.node?_append_of_ne t bytes hq)

theorem directoriesStay_writeAll (p : File.Place) (t : Tree) (writes : List (List UInt8)) :
    DirectoriesStay t (writeAll p t writes) := by
  intro q isSealed hq
  induction writes generalizing t with
  | nil => exact hq
  | cons bytes writes ih => exact ih _ (File.Tree.node?_append_directory hq p bytes)

theorem filesIn_writeAll (p : File.Place) (t : Tree) (writes : List (List UInt8)) :
    (writeAll p t writes).filesIn dir = t.filesIn dir := by
  induction writes generalizing t with
  | nil => rfl
  | cons bytes writes ih => exact (ih _).trans (File.Tree.filesIn_append t p bytes dir)

theorem Ready.writeAll (h : a.Ready date start dir t) (writes : List (List UInt8)) :
    a.Ready date start dir (writeAll (a.dayPlace date dir) t writes) := by
  have hstay := directoriesStay_writeAll (a.dayPlace date dir) t writes
  have hown : a.ownFiles (Appender.writeAll (a.dayPlace date dir) t writes) dir =
      a.ownFiles t dir := ownFiles_congr (filesIn_writeAll _ t writes)
  obtain ⟨contents, htoday⟩ := h.today
  refine ⟨File.Tree.locate_of_directoriesStay hstay h.located h.isDirectory,
    hstay.isDirectoryAt h.isDirectory, ⟨_, node?_writeAll htoday writes⟩, ?_⟩
  rw [hown]
  exact h.room

end writing

/-! ### Runs on one day -/

/-- What is left when a file is written to, if it could be opened. -/
def written (opening : Tree × Except Failure File.Place) (writes : List (List UInt8)) : Tree :=
  match opening with
  | (opened, .ok today) => writeAll today opened writes
  | (left, .error _) => left

/-- What a run does to the files: today's file is opened for a log file, and then written
    to. -/
def use (path date : String) (start : File.Place) (t : Tree) (writes : List (List UInt8)) : Tree :=
  written (openLog path date t start) writes

/-- What some runs do, one after another. -/
def useAll (path date : String) (start : File.Place) (t : Tree) (runs : List (List (List UInt8))) :
    Tree :=
  runs.foldl (use path date start) t

theorem useAll_concat (path date : String) (start : File.Place) (t : Tree)
    (runs : List (List (List UInt8))) (writes : List (List UInt8)) :
    useAll path date start t (runs ++ [writes]) =
      use path date start (useAll path date start t runs) writes :=
  List.foldl_concat _ _ _ _

theorem use_of_openLog (h : openLog path date t start = (opened, .ok today))
    (writes : List (List UInt8)) : use path date start t writes = writeAll today opened writes := by
  rw [use, h]
  rfl

/-- What holds after some runs, at least one, that began with a tree. -/
structure Ran (a : Appender) (date : String) (start dir : File.Place) (t : Tree)
    (initial : List UInt8) (runs : List (List (List UInt8))) (after : Tree) : Prop where
  ready : a.Ready date start dir after
  /-- The second run has left room for good. -/
  room : 2 ≤ runs.length → (a.ownFiles after dir).length ≤ maxFiles - 1
  today : after.node? (a.dayPlace date dir) = some (.file (initial ++ runs.flatten.flatten))
  foreign : ∀ p n, t.node? p = some n → p ∉ a.ownFiles t dir → after.node? p = some n

/-- What is foreign to the log stays foreign, and is not today's file. -/
theorem not_mem_ownFiles_of_node? {after : Tree} (hsame : after.node? p = t.node? p)
    (h : p ∉ a.ownFiles t dir) : p ∉ a.ownFiles after dir := by
  rw [mem_ownFiles_iff] at h ⊢
  rwa [hsame]

theorem ran_first {contents : List UInt8} (h : Opens a date start t dir opened)
    (htoday : opened.node? (a.dayPlace date dir) = some (.file contents))
    (writes : List (List UInt8)) :
    Ran a date start dir t contents [writes] (writeAll (a.dayPlace date dir) opened writes) := by
  refine ⟨h.ready.writeAll writes, ?_, ?_, ?_⟩
  · intro htwo
    simp at htwo
  · rw [node?_writeAll htoday]
    simp
  · intro p n hp hforeign
    have hkept := h.kept p n hp fun hmem => hforeign (List.mem_of_mem_take hmem)
    have hne : p ≠ a.dayPlace date dir := by
      rintro rfl
      obtain rfl := Option.some.inj (hkept.symm.trans htoday)
      exact hforeign (dayPlace_mem_ownFiles hp)
    rw [node?_writeAll_of_ne hne, hkept]

/-- A further run makes room, if there is none, and adds to today's file. -/
theorem Ran.step {initial : List UInt8} {runs : List (List (List UInt8))} {after : Tree}
    (h : Ran a date start dir t initial runs after) (writes : List (List UInt8)) :
    Ran a date start dir t initial (runs ++ [writes])
      (Appender.writeAll (a.dayPlace date dir) (a.pruned dir after) writes) := by
  have hstay := directoriesStay_pruned a dir after
  have htoday : (a.pruned dir after).node? (a.dayPlace date dir) =
      some (.file (initial ++ runs.flatten.flatten)) := by
    rw [node?_pruned_of_not_mem h.ready.not_mem_expired, h.today]
  have hroom : (a.ownFiles (a.pruned dir after) dir).length ≤ maxFiles - 1 := by
    rw [ownFiles_pruned]
    exact length_surviving_le _
  have hready : a.Ready date start dir (a.pruned dir after) :=
    ⟨File.Tree.locate_of_directoriesStay hstay h.ready.located h.ready.isDirectory,
      hstay.isDirectoryAt h.ready.isDirectory, ⟨_, htoday⟩, Or.inl hroom⟩
  refine ⟨hready.writeAll writes, ?_, ?_, ?_⟩
  · intro _
    rw [ownFiles_congr (filesIn_writeAll _ _ writes)]
    exact hroom
  · rw [node?_writeAll htoday]
    simp [List.append_assoc]
  · intro p n hp hforeign
    have hafter := h.foreign p n hp hforeign
    have hnot : p ∉ a.ownFiles after dir :=
      not_mem_ownFiles_of_node? (hafter.trans hp.symm) hforeign
    have hne : p ≠ a.dayPlace date dir := by
      rintro rfl
      exact hnot (dayPlace_mem_ownFiles h.today)
    rw [node?_writeAll_of_ne hne,
      node?_pruned_of_not_mem fun hmem => hnot (List.mem_of_mem_take hmem), hafter]

/-- After a first opening that ends well, every later one on the same day does so too. -/
theorem exists_openLog_useAll (hparent : File.Path.parent? path ≠ some "")
    (hdate : '/' ∉ date.toList) {contents : List UInt8}
    (hopen : openLog path date t start = (opened, .ok ((ofLogFile path).dayPlace date dir)))
    (h : Opens (ofLogFile path) date start t dir opened)
    (htoday : opened.node? ((ofLogFile path).dayPlace date dir) = some (.file contents))
    (runs : List (List (List UInt8))) (writes : List (List UInt8)) :
    (∃ opened', openLog path date (useAll path date start t runs) start =
      (opened', .ok ((ofLogFile path).dayPlace date dir))) ∧
    Ran (ofLogFile path) date start dir t contents (runs ++ [writes])
      (useAll path date start t (runs ++ [writes])) := by
  -- Each run finds what the one before it has left.
  induction runs using List.reverseRecOn generalizing writes with
  | nil =>
    have hstart : useAll path date start t [] = t := rfl
    refine ⟨⟨opened, hopen⟩, ?_⟩
    rw [useAll_concat, hstart, use_of_openLog hopen]
    exact ran_first h htoday writes
  | append_singleton runs last ih =>
    obtain ⟨-, hran⟩ := ih last
    have hagain := openLog_of_ready hparent hdate h.nameable hran.ready
    refine ⟨⟨_, hagain⟩, ?_⟩
    rw [useAll_concat, use_of_openLog hagain]
    exact hran.step writes

/-! ### What is kept -/

/-- An opening deletes only what it may: no more files of the log than it has to, and those
    are older than the ones that it keeps. -/
structure Spares (a : Appender) (dir today : File.Place) (before opened : Tree)
    (deleted kept : List File.Place) : Prop where
  own : a.ownFiles before dir = deleted ++ kept
  bound : (a.ownFiles opened dir).length ≤ maxFiles
  few : (a.ownFiles before dir).length < maxFiles → deleted = []
  older : ∀ p ∈ deleted, ∀ q ∈ kept, before.Older p q
  gone : ∀ p ∈ deleted, p ≠ today → opened.node? p = none
  spared : ∀ p n, before.node? p = some n → p ∉ deleted → opened.node? p = some n

theorem Opens.spares (h : Opens a date start t dir opened) :
    Spares a dir (a.dayPlace date dir) t opened (expired (a.ownFiles t dir))
      (surviving (a.ownFiles t dir)) := by
  have hlength := length_surviving_le (a.ownFiles t dir)
  refine ⟨(expired_append_surviving _).symm, ?_, ?_, ?_, h.gone, h.kept⟩
  · obtain hown | hown := h.ownFiles
    · rw [hown]
      exact Nat.le_trans hlength (Nat.sub_le _ _)
    · rw [hown, List.length_append, List.length_singleton]
      exact Nat.succ_le_succ hlength
  · intro hfew
    exact expired_eq_nil (Nat.le_sub_one_of_lt hfew)
  · intro p hp q hq
    refine File.Tree.older_of_sublist ?_ hp hq
    rw [expired_append_surviving]
    exact ownFiles_sublist a t dir

/-- Whatever a tree holds, a log file in a directory is opened on one day as often as need
    be, once it can be opened at all, and each run writes to it. No opening leaves more
    files of the log than are to be kept; it deletes none if there are few, and otherwise
    the oldest; from the third opening on it deletes none. Nothing else is lost, and today's
    file gets what is written, in order. Where the directory cannot be made, nothing is lost
    at all. Whether a file belongs to the log is told by its name as a text. -/
theorem retention (hparent : File.Path.parent? path ≠ some "") (hdate : '/' ∉ date.toList)
    (t : Tree) (start : File.Place) :
    (∀ made fault, t.ensureDirectory start (ofLogFile path).directory = (made, some fault) →
      openLog path date t start =
        (made, .error ((ofLogFile path).directoryFailure fault.message)) ∧
      ∀ p n, t.node? p = some n → made.node? p = some n) ∧
    ∀ today, (openLog path date t start).2 = .ok today →
      ∃ dir initial, today = (ofLogFile path).dayPlace date dir ∧
        (today ∉ expired ((ofLogFile path).ownFiles t dir) ∧
            t.node? today = some (.file initial) ∨
          (t.node? today = none ∨ today ∈ expired ((ofLogFile path).ownFiles t dir)) ∧
            initial = []) ∧
        ∀ runs writes, ∃ opened deleted kept,
          openLog path date (useAll path date start t runs) start = (opened, .ok today) ∧
          opened.locate start (components (ofLogFile path).directory) = .ok dir ∧
          opened.isDirectoryAt dir ∧
          Spares (ofLogFile path) dir today (useAll path date start t runs) opened deleted kept ∧
          (2 ≤ runs.length → deleted = []) ∧
          (∀ p n, t.node? p = some n → p ∉ (ofLogFile path).ownFiles t dir →
            (useAll path date start t (runs ++ [writes])).node? p = some n) ∧
          (useAll path date start t (runs ++ [writes])).node? today =
            some (.file (initial ++ (runs ++ [writes]).flatten.flatten)) := by
  constructor
  · intro made fault hensure
    obtain ⟨places, hpaved⟩ :=
      File.Tree.paved_ensureDirectory t start (ofLogFile path).directory
    rw [hensure] at hpaved
    refine ⟨?_, fun p n hp => hpaved.node?_eq_some hp⟩
    rw [openLog]
    simp only [hensure]
  · intro today hok
    have hopen : openLog path date t start = ((openLog path date t start).1, .ok today) := by
      rw [← hok]
    obtain ⟨dir, rfl, hopens⟩ := opens_of_openLog hparent hdate hopen
    obtain ⟨initial, htoday, hinitial⟩ := hopens.today
    refine ⟨dir, initial, rfl, hinitial, ?_⟩
    intro runs writes
    obtain ⟨⟨opened, hagain⟩, hran⟩ :=
      exists_openLog_useAll hparent hdate hopen hopens htoday runs writes
    obtain ⟨dir', hplace, hopens'⟩ := opens_of_openLog hparent hdate hagain
    obtain rfl : dir = dir' := (List.append_inj' hplace rfl).1
    refine ⟨opened, _, _, hagain, hopens'.located, hopens'.isDirectory, hopens'.spares, ?_,
      hran.foreign, hran.today⟩
    intro htwo
    -- The last run before this one was the second, or a later one.
    obtain ⟨earlier, last, rfl⟩ : ∃ earlier last, runs = earlier ++ [last] :=
      ⟨_, _, (List.dropLast_concat_getLast (List.ne_nil_of_length_pos (by omega))).symm⟩
    obtain ⟨-, hran⟩ := exists_openLog_useAll hparent hdate hopen hopens htoday earlier last
    exact expired_eq_nil (hran.room htwo)

/-- A directory with four files of the log, the oldest of them today's. -/
def crowded : Tree :=
  ⟨[([encode "logs"], .directory false),
    ([encode "logs", encode "lsp.log.2024-05-04"], .file [1]),
    ([encode "logs", encode "lsp.log.2024-05-01"], .file [2]),
    ([encode "logs", encode "notes"], .file [3]),
    ([encode "logs", encode "lsp.log.2024-05-02"], .file [4]),
    ([encode "logs", encode "lsp.log.2024-05-03"], .file [5])], by decide +kernel⟩

/-- A file in the place of the directory. -/
def blocked : Tree := ⟨[([encode "logs"], .file [])], by decide +kernel⟩

/-- Today's file is the oldest of four: it starts anew, one more file gives way after that,
    and then no more. Where a file is in the way, nothing is lost. -/
theorem retention_crowded :
    File.Path.parent? "logs/lsp.log" ≠ some "" ∧ '/' ∉ "2024-05-04".toList ∧
    (openLog "logs/lsp.log" "2024-05-04" blocked []).1.node? [encode "logs"] =
      some (.file []) ∧
    ∃ dir, ∀ runs writes, ∃ opened deleted kept,
      openLog "logs/lsp.log" "2024-05-04"
          (useAll "logs/lsp.log" "2024-05-04" [] crowded runs) [] =
        (opened, .ok [encode "logs", encode "lsp.log.2024-05-04"]) ∧
      Spares (ofLogFile "logs/lsp.log") dir [encode "logs", encode "lsp.log.2024-05-04"]
        (useAll "logs/lsp.log" "2024-05-04" [] crowded runs) opened deleted kept ∧
      (2 ≤ runs.length → deleted = []) ∧
      (useAll "logs/lsp.log" "2024-05-04" [] crowded (runs ++ [writes])).node?
          [encode "logs", encode "lsp.log.2024-05-04"] =
        some (.file (runs ++ [writes]).flatten.flatten) := by
  have hparent : File.Path.parent? "logs/lsp.log" ≠ some "" := by decide +kernel
  have hdate : '/' ∉ "2024-05-04".toList := by decide +kernel
  have hblocked : blocked.ensureDirectory [] (ofLogFile "logs/lsp.log").directory =
      ((blocked.ensureDirectory [] (ofLogFile "logs/lsp.log").directory).1, some .exists) :=
    Prod.ext rfl (by decide +kernel)
  have hopen : (openLog "logs/lsp.log" "2024-05-04" crowded []).2 =
      .ok [encode "logs", encode "lsp.log.2024-05-04"] := by decide +kernel
  have hoff : [encode "logs", encode "lsp.log.2024-05-04"] ∈
      expired ((ofLogFile "logs/lsp.log").ownFiles crowded [encode "logs"]) := by decide +kernel
  obtain ⟨hfails, hstays⟩ := (retention hparent hdate blocked []).1 _ _ hblocked
  obtain ⟨dir, initial, hplace, hinitial, hruns⟩ :=
    (retention hparent hdate crowded []).2 _ hopen
  have hdir : [encode "logs"] ++ [encode "lsp.log.2024-05-04"] =
      dir ++ [(ofLogFile "logs/lsp.log").dayName "2024-05-04"] := hplace
  obtain rfl : [encode "logs"] = dir := (List.append_inj' hdir rfl).1
  obtain rfl : initial = [] := by
    obtain ⟨hkept, -⟩ | ⟨-, hempty⟩ := hinitial
    · exact absurd hoff hkept
    · exact hempty
  refine ⟨hparent, hdate, ?_, [encode "logs"], ?_⟩
  · rw [hfails]
    exact hstays _ _ (by decide +kernel)
  · intro runs writes
    obtain ⟨opened, deleted, kept, hagain, -, -, hspares, hthird, -, htoday⟩ := hruns runs writes
    exact ⟨opened, deleted, kept, hagain, hspares, hthird, htoday⟩

end DocSync.Log.Appender
