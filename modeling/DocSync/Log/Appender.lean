import DocSync.Failure
import DocSync.File.Tree
import DocSync.Settings

/-! # Daily log files

  The log is kept in one file a day, named for the log file and the date, and
  only for the last few days: when today's file is opened, old files give way
  so that there is room for it. A file counts if its name starts with the name
  of the log file, and the oldest go first. Directories never count.

  The directory of the log files is made if it is missing.
-/

namespace DocSync.Log

/-- Where the daily files are, and what their names start with. -/
structure Appender where
  directory : String
  fileName : String
  deriving DecidableEq, Repr

namespace Appender

/-- How many files are kept, today's included. -/
def maxFiles : Nat := 4

/-- The daily files of a log file. A path without a directory, or without a
    name, is helped out. -/
def ofLogFile (path : String) : Appender :=
  ⟨(File.Path.parent? path).getD ".", (File.Path.fileName? path).getD Settings.logFileName⟩

def filePath (a : Appender) (date : String) : String :=
  File.Path.join a.directory (a.fileName ++ "." ++ date)

/-! ### Old files -/

/-- Of files in the order in which they were made, those that give way to a new
    one. -/
def expired {α : Type} (files : List α) : List α := files.take (files.length - (maxFiles - 1))

/-- Tells whether a file belongs to the log by its name, which has to be a text. -/
def owns (a : Appender) (name : File.Name) : Bool :=
  match Text.Utf8.decode? name with
  | some text => a.fileName.toList.isPrefixOf text.toList
  | none => false

/-- The files of the log in a directory, in the order in which they were made. -/
def ownFiles (a : Appender) (t : File.Tree) (dir : File.Place) : List File.Place :=
  ((t.filesIn dir).filter (fun file => a.owns file.2)).map Prod.fst

/-- The tree without the files that give way. A directory without a path is
    left as it is. -/
def prune (a : Appender) (t : File.Tree) (start : File.Place) : File.Tree :=
  match File.Path.components a.directory with
  | [] => t
  | path =>
    match t.locate start path with
    | .ok dir => t.remove (expired (a.ownFiles t dir))
    | .error _ => t

/-! ### Opening -/

def directoryFailure (a : Appender) (reason : String) : Failure :=
  Failure.within ("failed to create logs directory " ++ a.directory) ⟨reason, []⟩

def fileFailure (path : String) (reason : String) : Failure :=
  Failure.within ("failed to open log file " ++ path)
    ⟨"failed to create log file: " ++ reason, [reason]⟩

/-- Opens the file of a day for a log file. Gives the tree as far as it got, and
    the place of the file. -/
def openLog (path : String) (date : String) (t : File.Tree) (start : File.Place) :
    File.Tree × Except Failure File.Place :=
  let a := ofLogFile path
  match t.ensureDirectory start a.directory with
  | (made, some fault) => (made, .error (a.directoryFailure fault.message))
  | (made, none) =>
    let pruned := a.prune made start
    match pruned.openFile start (a.filePath date) with
    | .ok (opened, p) => (opened, .ok p)
    | .error fault => (pruned, .error (fileFailure path fault.message))

end Appender

end DocSync.Log
