import DocSync.File.Path
import DocSync.Log.Level

/-! # Settings of the server

  Two things can be set: how much is logged, and the directory of the log
  files. A directory that is not absolute is seen from the root of the project.
-/

namespace DocSync

/-- What configuration decides. -/
structure Settings where
  logLevel : Log.Level
  logsDirectory : Option String
  deriving DecidableEq, Repr

namespace Settings

def default : Settings := ⟨.default, none⟩

/-- The directory of the log files where none is configured. -/
def defaultLogsDirectory : String := "logs"

/-- The name of a log file, apart from its date. -/
def logFileName : String := "lsp.log"

/-- The directory of the log files of a project. -/
def logsDir (s : Settings) (root : String) : String :=
  File.Path.join root (s.logsDirectory.getD defaultLogsDirectory)

/-- The log file of a project, apart from its date. -/
def logFile (s : Settings) (root : String) : String :=
  File.Path.join (s.logsDir root) logFileName

end Settings

end DocSync
