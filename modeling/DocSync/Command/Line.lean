import DocSync.Command.Argument
import DocSync.Command.Usage
import DocSync.Log.Level

/-! # Command lines

  A command line is `serve` with options after it, and with switches before or
  after it. Arguments are read from left to right, first those of the program
  up to the word `serve`, then those of `serve`.

  * A switch or option may be given once on each side, except that `--verbose`
    is counted, up to 255.
  * `--quiet` and `--verbose` exclude each other on the same side. Where both
    sides give a switch, the side after `serve` counts.
  * An option's value may be the next argument, if that does not look like a
    switch. It is taken, or found to be missing or bad, once the next known
    switch or option or the end of the line is reached.
  * `--help` and `--version` end the reading where they stand.
-/

namespace DocSync.Command

/-! ### Options and problems -/

/-- What a command line asks for. -/
structure Options where
  quiet : Bool
  /-- How often `--verbose` is given, at most 255. -/
  verbose : Nat
  logLevel : Option Log.Level
  projectRoot : Option String
  deriving DecidableEq, Repr

/-- The level to log at: the one given, else `error` if quiet and `debug` if
    verbose, else the configured one. -/
def Options.effectiveLevel (o : Options) (configured : Log.Level) : Log.Level :=
  match o.logLevel with
  | some level => level
  | none => if o.quiet then .error else if 0 < o.verbose then .debug else configured

/-- Why a command line does not start the server. -/
inductive Stop where
  | help (topic : Topic)
  | version
  /-- Nothing is given at all. -/
  | nothingGiven
  /-- There are switches but no command. -/
  | missingCommand
  | unknownCommand
  | unknownArgument
  | conflict
  /-- The value of an option is missing or not one of those possible. -/
  | invalidValue
  | invalidText
  /-- A switch is given a value. -/
  | unneededValue
  deriving DecidableEq, Repr

namespace Stop

/-- What is printed as the answer to a question for help. -/
def output? : Stop → Option String
  | .help topic => some topic.text
  | .version => some versionText
  | _ => none

def exitCode (stop : Stop) : Nat := if stop.output?.isSome then 0 else 2

end Stop

/-- A step of the reader succeeds if its first part does, and then the rest. -/
theorem bind_eq_ok_iff {α β : Type} {x : Except Stop α} {f : α → Except Stop β} {b : β} :
    (x >>= f) = .ok b ↔ ∃ a, x = .ok a ∧ f a = .ok b := by
  cases x with
  | error stop =>
    constructor
    · intro h
      cases h
    · rintro ⟨a, ha, -⟩
      cases ha
  | ok a =>
    constructor
    · intro h
      exact ⟨a, rfl, h⟩
    · rintro ⟨a', ha, h⟩
      cases ha
      exact h

/-! ### Switches and options -/

/-- The two sides of a command line. -/
inductive Side where
  /-- Before the command. -/
  | program
  /-- After the command `serve`. -/
  | serve
  deriving DecidableEq, Repr

/-- The topic of the help asked for on a side. -/
def Side.topic : Side → Topic
  | .program => .program
  | .serve => .serve

/-- The names that take no value. -/
inductive Switch where
  | quiet
  | verbose
  | help
  | version
  deriving DecidableEq, Repr

/-- The names that take a value. -/
inductive Setting where
  | logLevel
  | projectRoot
  deriving DecidableEq, Repr

/-- What a name stands for. -/
inductive Meaning where
  | switch (s : Switch)
  | setting (s : Setting)
  deriving DecidableEq, Repr

def Side.long? (side : Side) (name : Argument) : Option Meaning :=
  match name.text?, side with
  | some "quiet", _ => some (.switch .quiet)
  | some "verbose", _ => some (.switch .verbose)
  | some "help", _ => some (.switch .help)
  | some "version", .program => some (.switch .version)
  | some "log-level", .serve => some (.setting .logLevel)
  | some "project-root", .serve => some (.setting .projectRoot)
  | _, _ => none

def Side.short? (side : Side) (name : Option Char) : Option Switch :=
  match name, side with
  | some 'q', _ => some .quiet
  | some 'v', _ => some .verbose
  | some 'h', _ => some .help
  | some 'V', .program => some .version
  | _, _ => none

/-! ### Reading one side -/

/-- What has been read on one side. -/
structure Progress where
  given : Options
  /-- An option that is not yet taken, with its value if that has been read. -/
  pending : Option (Setting × Option Argument)
  deriving DecidableEq, Repr

namespace Progress

/-- Nothing has been read. -/
def start : Progress := ⟨⟨false, 0, none, none⟩, none⟩

def take (o : Options) : Setting → Argument → Except Stop Options
  | .logLevel, value =>
    if o.logLevel.isSome then .error .conflict
    else match value.text?.bind Log.Level.ofName? with
      | some level => .ok { o with logLevel := some level }
      | none => .error .invalidValue
  | .projectRoot, value =>
    if o.projectRoot.isSome then .error .conflict
    else match value.text? with
      | some root => .ok { o with projectRoot := some root }
      | none => .error .invalidText

/-- Takes the pending option, whose value has to be there. -/
def settle (p : Progress) : Except Stop Options :=
  match p.pending with
  | none => .ok p.given
  | some (_, none) => .error .invalidValue
  | some (setting, some value) => take p.given setting value

def press (side : Side) (p : Progress) (s : Switch) : Except Stop Progress := do
  let o ← p.settle
  match s with
  | .quiet => if o.quiet then .error .conflict else return ⟨{ o with quiet := true }, none⟩
  | .verbose => return ⟨{ o with verbose := min 255 (o.verbose + 1) }, none⟩
  | .help => .error (.help side.topic)
  | .version => .error .version

/-- Acts on a cluster of short names. -/
def pressAll (side : Side) (p : Progress) : Argument → Except Stop Progress
  | [] => .ok p
  | c :: rest =>
    match side.short? c with
    | none => .error .unknownArgument
    | some s => do pressAll side (← p.press side s) rest

def named (side : Side) (p : Progress) (name : Argument) (value : Option Argument) :
    Except Stop Progress :=
  match side.long? name, value with
  | none, _ => .error .unknownArgument
  | some (.switch _), some _ => .error .unneededValue
  | some (.switch s), none => p.press side s
  | some (.setting s), some value => do return ⟨← take (← p.settle) s value, none⟩
  | some (.setting s), none => do return ⟨← p.settle, some (s, none)⟩

/-- What is wrong with a word that is neither a value nor a command. -/
def stray : Side → Stop
  | .program => .unknownCommand
  | .serve => .unknownArgument

/-- What is wrong with the first argument after a separator, where nothing may
    stand. A command there is taken for a misplaced one. -/
def afterSeparator (side : Side) (a : Argument) : Stop :=
  match side, a.text? with
  | .program, some "serve" => .unknownArgument
  | .program, some "help" => .unknownArgument
  | side, _ => stray side

/-- The help that the words after `help` ask for. -/
def helpOn : List Argument → Stop
  | [] => .help .program
  | [word] =>
    match word.text? with
    | some "serve" => .help .serve
    | some "help" => .help .help
    | _ => .unknownCommand
  | _ => .unknownCommand

/-- Reads the arguments of a side. Those after the command are left over. -/
def read (side : Side) (p : Progress) :
    List Argument → Except Stop (Progress × Option (List Argument))
  | [] => .ok (p, none)
  | a :: rest =>
    match Token.of a with
    -- After a separator only values may stand, and nothing here takes one.
    | .separator =>
      match rest with
      | [] => .ok (p, none)
      | next :: _ => .error (afterSeparator side next)
    | .long name value => do read side (← p.named side name value) rest
    | .cluster names => do read side (← p.pressAll side names) rest
    | .word word =>
      -- A word is the value of an option that waits for one.
      match p.pending with
      | some (setting, none) => read side ⟨p.given, some (setting, some word)⟩ rest
      | _ =>
        match side, word.text? with
        | .program, some "serve" => .ok (p, some rest)
        | .program, some "help" => .error (helpOn rest)
        | _, _ => .error (stray side)

end Progress

/-! ### Reading a command line -/

/-- Refuses `--quiet` beside `--verbose`. -/
def exclusive (o : Options) : Except Stop Unit :=
  if o.quiet ∧ 0 < o.verbose then .error .conflict else .ok ()

/-- The options of both sides together; where both give one, the inner counts. -/
def combine (outer inner : Options) : Options :=
  { inner with
    quiet := inner.quiet || outer.quiet
    verbose := if 0 < inner.verbose then inner.verbose else outer.verbose }

/-- Reads the arguments after the name of the program. -/
def read (args : List Argument) : Except Stop Options := do
  let (outer, rest) ← Progress.start.read .program args
  match rest with
  | none =>
    if outer.given.quiet ∨ 0 < outer.given.verbose then .error .missingCommand
    else .error .nothingGiven
  | some rest =>
    let (inner, _) ← Progress.start.read .serve rest
    let inner ← inner.settle
    exclusive inner
    exclusive outer.given
    return combine outer.given inner

end DocSync.Command
