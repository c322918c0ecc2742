import DocSync.Command.Line
import DocSync.Config.Load
import DocSync.Log.Appender
import DocSync.Log.Filter.Reader
import DocSync.Log.Notice
import DocSync.Rpc.Incoming
import DocSync.Rpc.Outgoing

/-! # The program

  The program takes a command line, loads its settings, opens today's log file
  and serves a client until the client is done. All that can fail fails before
  the first message is read; from then on the program ends well.

  What it prepares is decided by `Program.prepare`, from the situation that it
  finds, and what it does for a text of the client by `Setup.receive`. A whole
  run, `Program.run`, is made up of these.
-/

namespace DocSync.Program

/-! ### Command line and settings -/

/-- How the program ends before it serves a client. -/
inductive Halt where
  /-- An argument is no text. -/
  | unreadableArgument
  /-- The command line asks for something else, or for nothing sensible. -/
  | command (stop : Command.Stop)
  | failed (f : Failure)
  /-- The filter of the log would split a character. -/
  | brokenFilter

namespace Halt

/-- The exit code of the program. Where a library breaks it off, what code it leaves
    is up to how it has been built. -/
def exitCode? : Halt → Option Nat
  | .unreadableArgument | .brokenFilter => none
  | .command stop => some stop.exitCode
  | .failed _ => some 1

def output : Halt → String
  | .command stop => stop.output?.getD ""
  | _ => ""

/-- What the program reports as its failure. A library that refuses the command line or
    breaks the program off has a wording of its own, which is left out. -/
def report : Halt → String
  | .failed f => f.report
  | _ => ""

end Halt

/-- The options of a command line, all of whose arguments have to be texts. -/
def options (args : List (List UInt8)) : Except Halt Command.Options :=
  if args.all (fun a => (Text.Utf8.decode? a).isSome) then
    (Command.read (args.map .ofBytes)).mapError .command
  else .error .unreadableArgument

def pathOf (p : File.Place) : List UInt8 :=
  if p.isEmpty then [0x2F] else p.flatMap (fun name => 0x2F :: name)

/-- The root of the project: the one given, or else the working directory,
    whose path has to be a text. -/
def projectRoot (o : Command.Options) (workingDirectory : List UInt8) : Except Failure String :=
  match o.projectRoot, Text.Utf8.decode? workingDirectory with
  | some root, _ => .ok root
  | none, some root => .ok root
  | none, none =>
    .error ⟨"current directory is not UTF-8: " ++ Text.Utf8.decodeLossy workingDirectory, []⟩

/-- The settings for a project, with the level that the command line asks for. -/
def settings (o : Command.Options) (root : String) (files : List Config.SourceFile)
    (env : Environment) : Except Failure Settings :=
  match Config.load files env with
  | .ok s => .ok { s with logLevel := o.effectiveLevel s.logLevel }
  | .error e => .error (e.failure.within ("failed to load settings for " ++ root))

/-! ### Events of the program itself -/

/-- The part of the program that serves. -/
def target : String := "gls_server"

def started (root logFile : String) : Log.Event :=
  ⟨.info, target, [(Log.messageField, .formatted "Starting LSP server"),
    ("project_root", .formatted root), ("log_file", .formatted logFile)], []⟩

def stopped : Log.Event :=
  ⟨.info, target, [(Log.messageField, .formatted "LSP server shutdown")], []⟩

/-! ### Preparing -/

/-- What the program finds. -/
structure Situation where
  args : List (List UInt8)
  environment : Environment
  workingDirectory : File.Place
  tree : File.Tree
  date : String

/-- What the program serves a client with. -/
structure Setup where
  root : String
  settings : Settings
  filter : Log.Filter
  /-- The place of today's log file. -/
  logPlace : File.Place

/-- What is asked for: the options, and the root of the project. -/
def asked (s : Situation) : Except Halt (Command.Options × String) := do
  let o ← options s.args
  let root ← (projectRoot o (pathOf s.workingDirectory)).mapError .failed
  return (o, root)

/-- The root and the settings that are decided on before anything is opened. -/
def decided (s : Situation) : Except Halt (String × Settings) := do
  let (o, root) ← asked s
  let files := Config.sourceFiles s.tree s.workingDirectory s.environment root
  let settings ← (settings o root files s.environment).mapError .failed
  return (root, settings)

/-- The paths at which settings are looked for, if the root is known. -/
def sourcePaths (s : Situation) : List String :=
  match asked s with
  | .error _ => []
  | .ok (_, root) => (Config.filePaths s.environment root).flatMap Config.candidates

/-- What is prepared before there is a filter: the root, the settings and the place
    of the log file. -/
def groundwork (s : Situation) : File.Tree × Except Halt (String × Settings × File.Place) :=
  match decided s with
  | .error halt => (s.tree, .error halt)
  | .ok (root, settings) =>
    match Log.Appender.openLog (settings.logFile root) s.date s.tree s.workingDirectory with
    | (tree, .error f) => (tree, .error (.failed f))
    | (tree, .ok place) => (tree, .ok (root, settings, place))

/-- Prepares for a client. Gives the tree as it is then, also where it fails. -/
def prepare (s : Situation) : File.Tree × Except Halt Setup :=
  match groundwork s with
  | (tree, .error halt) => (tree, .error halt)
  | (tree, .ok (root, settings, place)) =>
    match Log.Filter.ofEnvironment? s.environment settings.logLevel with
    | some filter => (tree, .ok ⟨root, settings, filter, place⟩)
    | none => (tree, .error .brokenFilter)

/-! ### Serving -/

/-- What the program does for its client. -/
inductive Action where
  /-- Writes an event to the log. -/
  | log (e : Log.Event)
  | send (m : Rpc.Outgoing)

namespace Action

def event? : Action → Option Log.Event
  | .log e => some e
  | .send _ => none

def response? : Action → Option Rpc.Response
  | .send (.response r) => some r
  | _ => none

def notice? : Action → Option Log.Notice
  | .send (.notice n) => some n
  | _ => none

end Action

namespace Setup

/-- What is done about an event: it is offered to the log and to the client. -/
def offer (setup : Setup) (e : Log.Event) : List Action :=
  (setup.filter.logged? e).toList.map .log ++
    (setup.settings.logLevel.notice? e).toList.map fun n => .send (.notice n)

/-- What is done before the first text is read. -/
def atStart (setup : Setup) : List Action :=
  setup.offer (started setup.root (setup.settings.logFile setup.root))

/-- What is done about an outcome: its events first, and then its answer. -/
def react (setup : Setup) (outcome : Rpc.Outcome) : List Action :=
  outcome.events.flatMap setup.offer ++
    outcome.response.toList.map fun r => .send (.response r)

/-- What is done about a text of the client, and the stream after it. -/
def receive (setup : Setup) (stream : Rpc.Stream) (text : String) : Rpc.Stream × List Action :=
  let (after, outcome) := stream.receive text
  (after, setup.react outcome)

/-- What is done about texts, one after another. -/
def receiveAll (setup : Setup) (stream : Rpc.Stream) : List String → List Action
  | [] => []
  | text :: rest =>
    let (after, actions) := setup.receive stream text
    actions ++ setup.receiveAll after rest

/-- What is done after the last text. -/
def atEnd (setup : Setup) : List Action := setup.offer stopped

/-- All that is done for a client who sends some texts. -/
def serve (setup : Setup) (texts : List String) : List Action :=
  setup.atStart ++ setup.receiveAll .initial texts ++ setup.atEnd

end Setup

/-! ### Whole runs -/

/-- What the program leaves behind. -/
structure Result where
  /-- There is none if the program has been broken off. -/
  exitCode : Option Nat
  /-- What is printed that is no answer. -/
  output : String
  /-- The report of a failure. -/
  report : String
  responses : List Rpc.Response
  /-- The events in the log. -/
  logged : List Log.Event
  /-- The notices to the client. -/
  notices : List Log.Notice
  tree : File.Tree

/-- Runs the program with the texts that a client sends. -/
def run (s : Situation) (texts : List String) : Result :=
  match prepare s with
  | (tree, .error halt) => ⟨halt.exitCode?, halt.output, halt.report, [], [], [], tree⟩
  | (tree, .ok setup) =>
    let actions := setup.serve texts
    ⟨some 0, "", "", actions.filterMap Action.response?, actions.filterMap Action.event?,
      actions.filterMap Action.notice?, tree⟩

end DocSync.Program
