import DocSync.Text.Blank

/-! # Log levels

  Two scales meet here. A `Severity` belongs to an event. A `Level` is what
  configuration or the command line asks for, and admits events down to a
  severity.

  Level names come in two languages: configuration reads them leniently
  (`Level.read`, and `Level.readOrInfo`, for which every text is a level), while
  the command line knows the four exact names of `Level.ofName?`.
-/

namespace DocSync.Log

/-! ### Severities of events -/

inductive Severity where
  | error
  | warn
  | info
  | debug
  | trace
  deriving DecidableEq, Repr

/-- Counts up as events get more detailed. -/
def Severity.detail : Severity → Nat
  | .error => 1
  | .warn => 2
  | .info => 3
  | .debug => 4
  | .trace => 5

def Severity.name : Severity → String
  | .error => "ERROR"
  | .warn => "WARN"
  | .info => "INFO"
  | .debug => "DEBUG"
  | .trace => "TRACE"

/-! ### Configured levels -/

/-- How much of the server's own logging is wanted. -/
inductive Level where
  | debug
  | info
  | warning
  | error
  deriving DecidableEq, Repr

namespace Level

/-- The level in use where none is asked for. -/
def default : Level := .info

def name : Level → String
  | .debug => "debug"
  | .info => "info"
  | .warning => "warning"
  | .error => "error"

/-- The level of exactly this name. -/
def ofName? (text : String) : Option Level :=
  [debug, info, warning, error].find? (fun l => l.name = text)

/-- The directive by which a log filter keeps to a level. -/
def directive : Level → String
  | .debug => "debug"
  | .info => "info"
  | .warning => "warn"
  | .error => "error"

/-- The least grave severity that a level lets into the log file. -/
def severity : Level → Severity
  | .debug => .debug
  | .info => .info
  | .warning => .warn
  | .error => .error

/-! ### Reading names -/

/-- A text that names no level; kept as it is compared. -/
structure Unknown where
  text : String
  deriving DecidableEq, Repr

def Unknown.message (e : Unknown) : String := "unknown log level: " ++ e.text

/-- A text as it is compared with the names of levels. -/
def normalize (text : String) : String :=
  String.ofList (Text.lowerAscii (Text.trim text.toList))

/-- The level that a text names, whatever its case and the white space around it. -/
def read (text : String) : Except Unknown Level :=
  match normalize text with
  | "debug" => .ok .debug
  | "info" => .ok .info
  | "warning" => .ok .warning
  | "warn" => .ok .warning
  | "error" => .ok .error
  | other => .error ⟨other⟩

/-- The level that a text names, or the default one. -/
def readOrInfo (text : String) : Level :=
  match read text with
  | .ok level => level
  | .error _ => default

end Level

end DocSync.Log
