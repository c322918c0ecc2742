import DocSync.Proofs.Log.Opening

/-! # Where the log files are

  The settings spell the directory of the log files and the log file as texts; the
  daily files are found by taking the log file apart again. The two agree, however the
  root and the directory are spelled, because joining a name adds one component, and
  taking the last component off leaves the others.

  - `Settings.exists_parent?_logFile`: the parent of the log file has the components of
    the directory, and is spelled no longer.
  - `Settings.logFile_within_logsDir` puts this together with what an opening makes.
-/

namespace DocSync.Settings

open File.Path (components isAbsolute IsName)
open File.Tree (pathFault?)
open Log.Appender (ofLogFile openLog)

variable (s : Settings) (root : String)

/-! ### The log file as a path -/

theorem isName_logFileName : IsName logFileName :=
  ⟨by decide, by decide, by decide, by decide⟩

theorem components_logFile :
    components (s.logFile root) = components (s.logsDir root) ++ [.name logFileName] :=
  File.Path.components_join _ isName_logFileName

theorem fileName?_logFile : File.Path.fileName? (s.logFile root) = some logFileName := by
  rw [File.Path.fileName?, components_logFile, List.getLast?_concat]

/-- The parent of the log file is the directory, but for slashes and points at its end. -/
theorem exists_parent?_logFile :
    ∃ parent, File.Path.parent? (s.logFile root) = some parent ∧
      components parent = components (s.logsDir root) ∧
      parent.toList <+: (s.logsDir root).toList := by
  obtain ⟨parent, hparent, hcomponents⟩ :=
    File.Path.exists_parent?_of_fileName? (fileName?_logFile s root)
  rw [components_logFile] at hcomponents
  exact ⟨parent, hparent, (List.append_inj' hcomponents rfl).1.symm,
    File.Path.prefix_of_parent?_join isName_logFileName hparent⟩

/-! ### The directory as a text -/

theorem logsDir_of_isAbsolute {dir : String} (h : s.logsDirectory = some dir)
    (hdir : isAbsolute dir) : s.logsDir root = dir := by
  rw [logsDir, h, Option.getD_some, File.Path.join, if_pos hdir]

theorem logsDir_of_not_isAbsolute
    (h : isAbsolute (s.logsDirectory.getD defaultLogsDirectory) = false) :
    s.logsDir root =
      root ++ (if root = "" ∨ root.toList.getLast? = some '/' then "" else "/") ++
        s.logsDirectory.getD defaultLogsDirectory := by
  have hempty : root.toList = [] ↔ root = "" := by
    rw [← String.toList_inj]
    rfl
  rw [logsDir, File.Path.join, if_neg (by simp [h])]
  simp only [hempty]
  split
  · rw [String.append_empty]
  · rfl

theorem isAbsolute_logFile_iff :
    isAbsolute (s.logFile root) ↔
      isAbsolute root ∨ ∃ dir, s.logsDirectory = some dir ∧ isAbsolute dir := by
  have hname : isAbsolute logFileName = false := rfl
  have hdefault : isAbsolute defaultLogsDirectory = false := rfl
  rw [logFile, logsDir, File.Path.isAbsolute_join, File.Path.isAbsolute_join, hname]
  cases s.logsDirectory <;> simp [hdefault]

/-! ### The two together -/

/-- Whatever the root of a project and its directory of log files, the daily files are found
    where the settings say: the log file has a name and a parent, so nothing is helped out,
    and the parent leads where the directory leads. An opening makes nothing but the way
    there and today's file. -/
theorem logFile_within_logsDir :
    File.Path.fileName? (s.logFile root) = some logFileName ∧
    (∃ parent, File.Path.parent? (s.logFile root) = some parent ∧
      components parent = components (s.logsDir root) ∧
      ofLogFile (s.logFile root) = ⟨parent, logFileName⟩ ∧
      (pathFault? (s.logsDir root) = none → ∀ (t : File.Tree) (start : File.Place),
        t.ensureDirectory start parent = t.ensureDirectory start (s.logsDir root))) ∧
    (∀ (date : String) (t : File.Tree) (start : File.Place), '/' ∉ date.toList →
      ∀ opened result, openLog (s.logFile root) date t start = (opened, result) →
        (∀ p n, opened.node? p = some n → t.node? p = none → result = .ok p ∨
          n = .directory false ∧ ∃ front, front <+: components (s.logsDir root) ∧
            opened.locate start front = .ok p) ∧
        ∀ today, result = .ok today →
          ∃ dir, opened.locate start (components (s.logsDir root)) = .ok dir ∧
            opened.isDirectoryAt dir ∧
            today = dir ++ [Text.Utf8.encode (logFileName ++ "." ++ date)]) ∧
    (∀ dir, s.logsDirectory = some dir → isAbsolute dir → s.logsDir root = dir) ∧
    (isAbsolute (s.logsDirectory.getD defaultLogsDirectory) = false →
      s.logsDir root =
        root ++ (if root = "" ∨ root.toList.getLast? = some '/' then "" else "/") ++
          s.logsDirectory.getD defaultLogsDirectory) ∧
    (isAbsolute (s.logFile root) ↔
      isAbsolute root ∨ ∃ dir, s.logsDirectory = some dir ∧ isAbsolute dir) := by
  have hname := fileName?_logFile s root
  obtain ⟨parent, hparent, hcomponents, hbegins⟩ := exists_parent?_logFile s root
  have hof : ofLogFile (s.logFile root) = ⟨parent, logFileName⟩ := by
    rw [ofLogFile, hparent, hname, Option.getD_some, Option.getD_some]
  refine ⟨hname, ⟨parent, hparent, hcomponents, hof, ?_⟩, ?_,
    fun dir => logsDir_of_isAbsolute s root, logsDir_of_not_isAbsolute s root,
    isAbsolute_logFile_iff s root⟩
  · intro hfault t start
    have hfault' := File.Tree.pathFault?_eq_none_of_prefix hbegins hfault
    rw [File.Tree.ensureDirectory, File.Tree.ensureDirectory, hfault, hfault', hcomponents]
  · intro date t start hdate opened result hopen
    constructor
    · intro p n hnode hfresh
      have hnew := Log.Appender.new_of_openLog (s.logFile root) hdate t start p n
      rw [hopen, hof, hcomponents] at hnew
      exact hnew hnode hfresh
    · rintro today rfl
      have hlocated := Log.Appender.located_of_openLog hdate hopen
      rw [hof, hcomponents] at hlocated
      exact hlocated

/-- A directory with slashes and a point at its end: it is made under its plain name. -/
theorem logFile_within_logsDir_untidy :
    pathFault? (Settings.logsDir ⟨.default, some "a//./"⟩ "p") = none ∧
    '/' ∉ "2024-05-04".toList ∧
    (∀ (t : File.Tree) (start : File.Place),
      t.ensureDirectory start "p/a" = t.ensureDirectory start "p/a//./") ∧
    ∃ opened dir, openLog (Settings.logFile ⟨.default, some "a//./"⟩ "p") "2024-05-04" .empty [] =
        (opened, .ok (dir ++ [Text.Utf8.encode "lsp.log.2024-05-04"])) ∧
      opened.locate [] (components "p/a//./") = .ok dir ∧ opened.isDirectoryAt dir := by
  have hdate : '/' ∉ "2024-05-04".toList := by decide +kernel
  have hfault : pathFault? (Settings.logsDir ⟨.default, some "a//./"⟩ "p") = none := by
    decide +kernel
  have hparent : File.Path.parent? (Settings.logFile ⟨.default, some "a//./"⟩ "p") =
      some "p/a" := by decide +kernel
  obtain ⟨-, ⟨parent, hsome, -, -, hsame⟩, hopening, -⟩ :=
    logFile_within_logsDir ⟨.default, some "a//./"⟩ "p"
  obtain rfl : parent = "p/a" := Option.some.inj (hsome.symm.trans hparent)
  have hok : (openLog (Settings.logFile ⟨.default, some "a//./"⟩ "p") "2024-05-04" .empty []).2 =
      .ok [Text.Utf8.encode "p", Text.Utf8.encode "a", Text.Utf8.encode "lsp.log.2024-05-04"] := by
    decide +kernel
  obtain ⟨dir, hlocate, hisdir, htoday⟩ :=
    (hopening "2024-05-04" .empty [] hdate _ _ rfl).2 _ hok
  exact ⟨hfault, hdate, hsame hfault, _, dir, Prod.ext rfl (hok.trans (congrArg _ htoday)),
    hlocate, hisdir⟩

end DocSync.Settings
