import DocSync.Proofs.Log.Sinks
import DocSync.Proofs.Rpc.Acceptance

/-! # How the program ends

  Whether the program ends well is settled before the first message is read. What can
  be in the way is one of four things, `Prevented`, each with a failure that names what
  was attempted last first. If none of them is, the program reads what its client sends,
  up to `exit` or to the first text that is no message, and whatever that is, it ends
  well.

  - `Stream.taken_eq` says how far a stream is read, from one step of it,
    `Stream.step_of_live`.
  - `prepare_cases` says how preparations end.
  - `startup_decides_exit` puts both together.
-/

namespace DocSync

namespace Rpc

/-! ### The end of a stream -/

/-- Tells whether nothing is read after a text: it is `exit`, or no message at all. -/
def Incoming.isLast : Incoming → Bool
  | .call m => m.method = "exit"
  | .answer => false
  | .invalid _ => true

/-- The texts up to the first one after which nothing is read, if there is one. -/
def upToEnd : List String → List String
  | [] => []
  | text :: rest => if (Incoming.ofText text).isLast then [text] else text :: upToEnd rest

/-- All texts come before the end, or one is the first after which nothing is read. -/
theorem upToEnd_cases (texts : List String) :
    upToEnd texts = texts ∨ ∃ before last after, texts = before ++ last :: after ∧
      upToEnd texts = before ++ [last] ∧ (Incoming.ofText last).isLast = true ∧
        ∀ text ∈ before, (Incoming.ofText text).isLast = false := by
  induction texts with
  | nil => exact Or.inl rfl
  | cons text rest ih =>
    rw [upToEnd]
    cases hlast : (Incoming.ofText text).isLast with
    | true => exact Or.inr ⟨[], text, rest, rfl, rfl, hlast, by simp⟩
    | false =>
      rw [if_neg Bool.false_ne_true]
      obtain hall | ⟨before, last, after, hrest, hread, hend, hbefore⟩ := ih
      · exact Or.inl (by rw [hall])
      · refine Or.inr ⟨text :: before, last, after, by rw [hrest, List.cons_append],
          by rw [hread, List.cons_append], hend, ?_⟩
        simpa [hlast] using hbefore

/-- Only `exit` ends a connection. -/
theorem Message.next_eq_exited_iff (m : Message) (stage : Lifecycle) :
    m.next stage = .exited ↔ stage = .exited ∨ m.method = "exit" := by
  cases stage <;> simp only [Message.next] <;> grind

theorem Connection.exists_outcome_of_receive {c : Connection} (h : c.lifecycle ≠ .exited)
    (m : Message) : ∃ outcome, (c.receive m).2 = some outcome := by
  cases hm : Method.ofName? m.method with
  | some method => exact ⟨_, by rw [Connection.receive_of_method h hm]⟩
  | none =>
    obtain ⟨outcome, hreceive, -⟩ := Connection.receive_of_unknown h hm
    exact ⟨outcome, by rw [hreceive]⟩

namespace Stream

/-- The texts that are read from a stream, of those that arrive. -/
def taken (s : Stream) : List String → List String
  | [] => []
  | text :: rest => if s.isOpen then text :: taken (s.receive text).1 rest else []

/-- The stream goes on, and its connection has not been left. -/
structure Live (s : Stream) : Prop where
  isOpen : s.isOpen = true
  lifecycle : s.connection.lifecycle ≠ .exited

theorem live_initial : initial.Live := ⟨rfl, fun h => by cases h⟩

/-- A stream goes on after a text if and only if the text is not the last one. -/
theorem step_of_live {s : Stream} (h : s.Live) (text : String) :
    ((Incoming.ofText text).isLast = true → (s.receive text).1.isOpen = false) ∧
      ((Incoming.ofText text).isLast = false → (s.receive text).1.Live) := by
  rw [receive, if_pos h.isOpen, accept]
  cases Incoming.ofText text with
  | invalid e => exact ⟨fun _ => rfl, fun hlast => absurd hlast.symm Bool.false_ne_true⟩
  | answer => exact ⟨fun hlast => absurd hlast Bool.false_ne_true, fun _ => h⟩
  | call m =>
    obtain ⟨outcome, houtcome⟩ := Connection.exists_outcome_of_receive h.lifecycle m
    have hreceive : s.connection.receive m = ((s.connection.receive m).1, some outcome) :=
      Prod.ext rfl houtcome
    have hend : (s.connection.receive m).1.lifecycle = .exited ↔ m.method = "exit" := by
      rw [Connection.lifecycle_receive, Message.next_eq_exited_iff]
      simp [h.lifecycle]
    simp only [Incoming.isLast, decide_eq_true_eq, decide_eq_false_iff_not]
    rw [hreceive]
    constructor
    · intro hexit
      simp [hend.2 hexit]
    · intro hexit
      have hstays := mt hend.1 hexit
      exact ⟨by simpa using hstays, hstays⟩

theorem taken_of_closed {s : Stream} (h : s.isOpen = false) (texts : List String) :
    s.taken texts = [] := by
  cases texts with
  | nil => rfl
  | cons text rest => rw [taken, if_neg (by simp [h])]

/-- A stream is read to its end. -/
theorem taken_eq {s : Stream} (h : s.Live) (texts : List String) :
    s.taken texts = upToEnd texts := by
  induction texts generalizing s with
  | nil => rfl
  | cons text rest ih =>
    obtain ⟨hclosed, hlive⟩ := step_of_live h text
    rw [taken, if_pos h.isOpen, upToEnd]
    cases hlast : (Incoming.ofText text).isLast with
    | true => rw [if_pos rfl, taken_of_closed (hclosed hlast)]
    | false => rw [if_neg Bool.false_ne_true, ih (hlive hlast)]

/-- Nothing comes of a text after the end. -/
theorem receiveAll_of_closed {s : Stream} (h : s.isOpen = false) (texts : List String) :
    s.receiveAll texts = texts.map fun _ => ⟨none, []⟩ := by
  induction texts with
  | nil => rfl
  | cons text rest ih =>
    rw [receiveAll, receive, if_neg (by simp [h]), List.map_cons]
    simp only [ih]

/-- All that comes of some texts comes of those up to the end. -/
theorem exists_receiveAll_eq {s : Stream} (h : s.Live) (texts : List String) :
    ∃ after : List String,
      s.receiveAll texts = s.receiveAll (upToEnd texts) ++ after.map fun _ => ⟨none, []⟩ := by
  induction texts generalizing s with
  | nil => exact ⟨[], rfl⟩
  | cons text rest ih =>
    obtain ⟨hclosed, hlive⟩ := step_of_live h text
    rw [upToEnd]
    cases hlast : (Incoming.ofText text).isLast with
    | true => exact ⟨rest, by simp [receiveAll, receiveAll_of_closed (hclosed hlast)]⟩
    | false =>
      obtain ⟨after, hafter⟩ := ih (hlive hlast)
      exact ⟨after, by simp [receiveAll, hafter]⟩

end Stream

/-- Outcomes of texts after the end give neither answers nor events. -/
theorem silent_after (outcomes : List Outcome) (after : List String) :
    (outcomes ++ after.map fun _ => (⟨none, []⟩ : Outcome)).filterMap Outcome.response =
        outcomes.filterMap Outcome.response ∧
      (outcomes ++ after.map fun _ => (⟨none, []⟩ : Outcome)).flatMap Outcome.events =
        outcomes.flatMap Outcome.events := by
  constructor
  · rw [List.filterMap_append, List.filterMap_map]
    simp
  · rw [List.flatMap_append, List.flatMap_map]
    simp

end Rpc

namespace Program

/-! ### What can be in the way -/

/-- Why the program ends before it serves a client: the root is no text, the settings
    cannot be loaded, or the directory or the file of the log cannot be had. The failure
    has what was attempted last in front, and the reason beneath it. -/
inductive Prevented (s : Situation) (o : Command.Options) : Failure → Prop
  | root (hroot : o.projectRoot = none)
      (hbytes : Text.Utf8.decode? (pathOf s.workingDirectory) = none) :
      Prevented s o
        ⟨"current directory is not UTF-8: " ++
          Text.Utf8.decodeLossy (pathOf s.workingDirectory), []⟩
  | settings {root : String} {e : Config.Error}
      (hroot : projectRoot o (pathOf s.workingDirectory) = .ok root)
      (hload : Config.load (Config.sourceFiles s.tree s.workingDirectory s.environment root)
        s.environment = .error e) :
      Prevented s o ⟨"failed to load settings for " ++ root, [Config.Error.summary, e.message]⟩
  | directory {root : String} {settings : Settings} {a : Log.Appender} {tree : File.Tree}
      {fault : File.Fault} (hdecided : decided s = .ok (root, settings))
      (happender : a = .ofLogFile (settings.logFile root))
      (hfault : s.tree.ensureDirectory s.workingDirectory a.directory = (tree, some fault)) :
      Prevented s o ⟨"failed to create logs directory " ++ a.directory, [fault.message]⟩
  | file {root : String} {settings : Settings} {a : Log.Appender} {tree : File.Tree}
      {fault : File.Fault} (hdecided : decided s = .ok (root, settings))
      (happender : a = .ofLogFile (settings.logFile root))
      (hdirectory : s.tree.ensureDirectory s.workingDirectory a.directory = (tree, none))
      (hfault : (a.prune tree s.workingDirectory).openFile s.workingDirectory
        (a.filePath s.date) = .error fault) :
      Prevented s o
        ⟨"failed to open log file " ++ settings.logFile root,
          ["failed to create log file: " ++ fault.message, fault.message]⟩

section preparations
variable {s : Situation} {o : Command.Options} {f : Failure}

/-- Whatever is in the way, the program ends with the failure that names it. -/
theorem Prevented.groundwork_eq (h : options s.args = .ok o) (hp : Prevented s o f) :
    ∃ tree, groundwork s = (tree, .error (.failed f)) := by
  cases hp with
  | root hroot hbytes =>
    have hdecided := decided_eq h
    rw [projectRoot, hroot, hbytes] at hdecided
    exact ⟨s.tree, by rw [groundwork, hdecided]⟩
  | settings hroot hload =>
    have hdecided := decided_eq h
    rw [hroot] at hdecided
    simp only [Program.settings, hload] at hdecided
    exact ⟨s.tree, by rw [groundwork, hdecided]; rfl⟩
  | @directory root settings a tree fault hdecided happender hfault =>
    subst happender
    refine ⟨tree, ?_⟩
    rw [groundwork, hdecided]
    simp only [Log.Appender.openLog, hfault]
    rfl
  | @file root settings a tree fault hdecided happender hdirectory hfault =>
    subst happender
    refine ⟨(Log.Appender.ofLogFile (settings.logFile root)).prune tree s.workingDirectory, ?_⟩
    rw [groundwork, hdecided]
    simp only [Log.Appender.openLog, hdirectory, hfault]
    rfl

/-- If preparations fail before there is a filter, something is in the way. -/
theorem groundwork_cases (h : options s.args = .ok o) :
    (∃ f, Prevented s o f) ∨ ∃ tree ground, groundwork s = (tree, .ok ground) := by
  have hdecided := decided_eq h
  cases hroot : projectRoot o (pathOf s.workingDirectory) with
  | error f =>
    left
    cases hgiven : o.projectRoot with
    | some root => simp [projectRoot, hgiven] at hroot
    | none =>
      cases hbytes : Text.Utf8.decode? (pathOf s.workingDirectory) with
      | some root => simp [projectRoot, hgiven, hbytes] at hroot
      | none => exact ⟨_, .root hgiven hbytes⟩
  | ok root =>
    simp only [hroot] at hdecided
    cases hload : Config.load (Config.sourceFiles s.tree s.workingDirectory s.environment root)
        s.environment with
    | error e => exact Or.inl ⟨_, .settings hroot hload⟩
    | ok loaded =>
      simp only [settings, hload] at hdecided
      rw [groundwork, hdecided]
      simp only
      -- What is in the way of the log file is named by the settings, whatever they are.
      generalize ({ loaded with logLevel := o.effectiveLevel loaded.logLevel } : Settings) =
        settings at hdecided
      cases hensure : s.tree.ensureDirectory s.workingDirectory
          (Log.Appender.ofLogFile (settings.logFile root)).directory with
      | mk tree fault? =>
        cases fault? with
        | some fault => exact Or.inl ⟨_, .directory hdecided rfl hensure⟩
        | none =>
          cases hopen : ((Log.Appender.ofLogFile (settings.logFile root)).prune tree
              s.workingDirectory).openFile s.workingDirectory
              ((Log.Appender.ofLogFile (settings.logFile root)).filePath s.date) with
          | error fault => exact Or.inl ⟨_, .file hdecided rfl hensure hopen⟩
          | ok result =>
            right
            simp only [Log.Appender.openLog, hensure, hopen]
            exact ⟨_, _, rfl⟩

/-- Preparations fail if something is in the way, or if the filter that is asked for
    splits a character. -/
theorem prepare_cases (h : options s.args = .ok o) :
    (∃ f, Prevented s o f) ∨
      Log.Filter.asked? s.environment = some (.error .splitsCharacter) ∨
        ∃ tree setup, prepare s = (tree, .ok setup) := by
  obtain hprevented | ⟨tree, ⟨root, settings, place⟩, hground⟩ := groundwork_cases h
  · exact Or.inl hprevented
  · right
    cases hfilter : Log.Filter.ofEnvironment? s.environment settings.logLevel with
    | none => exact Or.inl (Log.Filter.ofEnvironment?_eq_none_iff.1 hfilter)
    | some filter =>
      right
      exact ⟨tree, ⟨root, settings, filter, place⟩, prepare_of_groundwork hground hfilter⟩

end preparations

/-! ### The end of the program -/

/-- What is sent after the end makes no difference. -/
theorem run_eq_run_upToEnd (s : Situation) (texts : List String) :
    run s texts = run s (Rpc.upToEnd texts) := by
  cases hprepare : prepare s with
  | mk tree prepared =>
    cases prepared with
    | error halt => rw [run_of_error hprepare, run_of_error hprepare]
    | ok setup =>
      obtain ⟨after, hafter⟩ := Rpc.Stream.exists_receiveAll_eq Rpc.Stream.live_initial texts
      obtain ⟨hresponses, hevents⟩ :=
        Rpc.silent_after (Rpc.Stream.initial.receiveAll (Rpc.upToEnd texts)) after
      rw [run_of_prepare hprepare, run_of_prepare hprepare]
      simp only [hafter, hresponses, events, hevents]

theorem exitCode_eq (s : Situation) (texts texts' : List String) :
    (run s texts).exitCode = (run s texts').exitCode := by
  cases hprepare : prepare s with
  | mk tree prepared =>
    cases prepared with
    | error halt => rw [run_of_error hprepare, run_of_error hprepare]
    | ok setup => rw [run_of_prepare hprepare, run_of_prepare hprepare]

/-- Nothing is in the way of a run that does not end with a failure. -/
theorem not_prevented_of_exitCode {s : Situation} {o : Command.Options} {texts : List String}
    (h : options s.args = .ok o) (hcode : (run s texts).exitCode ≠ some 1) (f : Failure) :
    ¬ Prevented s o f := by
  intro hprevented
  obtain ⟨tree, hground⟩ := hprevented.groundwork_eq h
  rw [run_of_error (prepare_of_halt hground)] at hcode
  exact hcode rfl

/-- With a command line that asks to serve, the exit code is settled at startup. If
    something is in the way, nothing is read or answered, and the failure is reported with
    what was attempted last in front. Otherwise, and unless the filter of the log splits a
    character, all that is sent is read up to `exit` or to what is no message, and the
    program ends well. No text that is sent makes a difference to the exit code. -/
theorem startup_decides_exit {s : Situation} {o : Command.Options} (h : options s.args = .ok o) :
    (∀ f, Prevented s o f →
      ∃ tree, ∀ texts, run s texts = ⟨some 1, "", f.report, [], [], [], tree⟩) ∧
    ((∀ f, ¬ Prevented s o f) →
      Log.Filter.asked? s.environment ≠ some (.error .splitsCharacter) →
      ∃ tree setup, prepare s = (tree, .ok setup) ∧ ∀ texts,
        Rpc.Stream.initial.taken texts = Rpc.upToEnd texts ∧
        let outcomes := Rpc.Stream.initial.receiveAll (Rpc.upToEnd texts)
        run s texts = ⟨some 0, "", "", outcomes.filterMap Rpc.Outcome.response,
          (events setup outcomes).filterMap setup.filter.logged?,
          setup.settings.logLevel.notices (events setup outcomes), tree⟩) ∧
    ∀ texts texts', (run s texts).exitCode = (run s texts').exitCode := by
  refine ⟨?_, ?_, exitCode_eq s⟩
  · intro f hprevented
    obtain ⟨tree, hground⟩ := hprevented.groundwork_eq h
    exact ⟨tree, run_of_error (prepare_of_halt hground)⟩
  · intro hfree hfilter
    obtain ⟨f, hprevented⟩ | hsplits | ⟨tree, setup, hprepare⟩ := prepare_cases h
    · exact absurd hprevented (hfree f)
    · exact absurd hsplits hfilter
    · refine ⟨tree, setup, hprepare, ?_⟩
      intro texts
      refine ⟨Rpc.Stream.taken_eq Rpc.Stream.live_initial texts, ?_⟩
      rw [run_eq_run_upToEnd, run_of_prepare hprepare]

/-- A server that finds a file in the place of its directory, and one that finds nothing in
    its way. -/
theorem startup_decides_exit_blocked :
    let blocked : Situation :=
      ⟨[Text.Utf8.encode "serve"], [], [],
        ⟨[([Text.Utf8.encode "logs"], .file [0x0A])], by decide +kernel⟩, "2026-01-01"⟩
    let free : Situation := ⟨[Text.Utf8.encode "serve"], [], [], .empty, "2026-01-01"⟩
    options blocked.args = .ok ⟨false, 0, none, none⟩ ∧
    (∃ tree, ∀ texts, run blocked texts = ⟨some 1, "",
      "Error: failed to create logs directory /logs\nCaused by: File exists (os error 17)\n",
      [], [], [], tree⟩) ∧
    ∀ texts, Rpc.Stream.initial.taken texts = Rpc.upToEnd texts ∧
      (run free texts).exitCode = some 0 := by
  intro blocked free
  have hoptions : options blocked.args = .ok ⟨false, 0, none, none⟩ :=
    eq_ok_of_toOption (by decide +kernel)
  have hdecided : decided blocked = .ok ("/", ⟨.info, none⟩) :=
    eq_ok_of_toOption (by decide +kernel)
  have hfault : blocked.tree.ensureDirectory [] (Log.Appender.ofLogFile "/logs/lsp.log").directory =
      ((blocked.tree.ensureDirectory [] (Log.Appender.ofLogFile "/logs/lsp.log").directory).1,
        some .exists) :=
    Prod.ext rfl (by decide +kernel)
  have hreport : Failure.report ⟨"failed to create logs directory " ++
      (Log.Appender.ofLogFile "/logs/lsp.log").directory, [File.Fault.exists.message]⟩ =
      "Error: failed to create logs directory /logs\nCaused by: File exists (os error 17)\n" := by
    decide +kernel
  have hcode : (run free []).exitCode ≠ some 1 := by decide +kernel
  have hasked : Log.Filter.asked? free.environment ≠ some (.error .splitsCharacter) := by
    intro hasked
    cases hasked
  obtain ⟨hprevented, -, -⟩ := startup_decides_exit hoptions
  obtain ⟨-, hfree, -⟩ := startup_decides_exit (s := free) hoptions
  obtain ⟨tree, hrun⟩ := hprevented _ (.directory hdecided (by decide +kernel) hfault)
  obtain ⟨tree', setup, -, hserves⟩ := hfree (not_prevented_of_exitCode hoptions hcode) hasked
  refine ⟨hoptions, ⟨tree, fun texts => ?_⟩, fun texts => ?_⟩
  · rw [hrun texts, hreport]
  · obtain ⟨htaken, hends⟩ := hserves texts
    exact ⟨htaken, by rw [hends]⟩

/-- A text that is no message is the last one that is read, though more is sent and nobody
    has asked for `exit`. A filter that splits a character breaks the program off with nothing
    in its way, so that it does not end well. -/
theorem served_short_of_end :
    let s (env : Environment) : Situation :=
      ⟨[Text.Utf8.encode "serve"], env, [], .empty, "2026-01-01"⟩
    let startup := "\x7b\"jsonrpc\":\"2.0\",\"id\":1,\"method\":\"initialize\"," ++
      "\"params\":\x7b\"capabilities\":\x7b\x7d\x7d\x7d"
    let odd : Environment := [(Text.Utf8.encode "RUST_LOG", Text.Utf8.encode " é=info")]
    options (s []).args = .ok ⟨false, 0, none, none⟩ ∧
    (∀ f, ¬ Prevented (s []) ⟨false, 0, none, none⟩ f) ∧
    (Rpc.Incoming.ofText startup).isLast = false ∧
    Rpc.Stream.initial.taken ["no message", startup] = ["no message"] ∧
    (run (s []) ["no message", startup]).responses.length = 1 ∧
    (run (s []) [startup]).responses.length = 1 ∧
    (∀ f, ¬ Prevented (s odd) ⟨false, 0, none, none⟩ f) ∧ (run (s odd) []).exitCode = none := by
  intro s startup odd
  have hoptions (env : Environment) : options (s env).args = .ok ⟨false, 0, none, none⟩ := by
    have hread : (options [Text.Utf8.encode "serve"]).toOption = some ⟨false, 0, none, none⟩ := by
      decide +kernel
    exact eq_ok_of_toOption hread
  have hcode : (run (s []) []).exitCode ≠ some 1 := by decide +kernel
  have hodd : (run (s odd) []).exitCode = none := by decide +kernel
  exact ⟨hoptions [], not_prevented_of_exitCode (hoptions []) hcode, by decide +kernel,
    by decide +kernel, by decide +kernel, by decide +kernel,
    not_prevented_of_exitCode (hoptions odd) (by rw [hodd]; decide), hodd⟩

end Program

end DocSync
