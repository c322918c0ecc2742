import DocSync.Config.Path
import DocSync.Environment
import DocSync.Failure
import DocSync.File.Tree
import DocSync.Settings
import DocSync.Text.Quoted
import DocSync.Toml.Reader

/-! # Loading settings

  Settings come from files and from the environment, each source laid over the
  ones before it: the file of the user, the two files of the project, and last
  the environment. A level that has no known name is the default one; a source
  that cannot be read, or that gives a list or a table where a text belongs, is
  an error.
-/

namespace DocSync.Config

/-! ### Errors -/

inductive Kind where
  | list
  | table
  deriving DecidableEq, Repr

def Kind.name : Kind → String
  | .list => "sequence"
  | .table => "map"

/-- Why settings cannot be loaded. -/
inductive Error where
  /-- A file is no document. -/
  | notDocument (file : String)
  /-- A value is no text. -/
  | notText (unexpected : Kind) (key : String) (origin : Option String)
  /-- The value of a variable is not encoded as a text. -/
  | notEncoded (key : String) (value : List UInt8)
  deriving DecidableEq, Repr

namespace Error

def expected : String := "a string"

/-- The wording of an error. What is wrong with a file that is no document the
    library that reads it puts at length; here a text of our own stands for that. -/
def message : Error → String
  | .notDocument file => "cannot parse " ++ file
  | .notText unexpected key origin =>
    "invalid type: " ++ unexpected.name ++ ", expected " ++ expected ++
      " for key `" ++ key ++ "`" ++
      (match origin with
        | some file => " in " ++ file
        | none => "")
  | .notEncoded key value =>
    "env variable " ++ Text.Quoted.quote key ++ " contains non-Unicode data: " ++
      Text.Quoted.quoteBytes value

/-- What is wrong as a whole, whatever the error. -/
def summary : String := "Configuration build/deserialize error"

def failure (e : Error) : Failure := ⟨summary, [e.message]⟩

end Error

/-! ### Sources -/

/-- A file and what it holds. -/
structure SourceFile where
  path : String
  contents : List UInt8
  deriving DecidableEq, Repr

namespace SourceFile

/-- The contents without a mark of the byte order. -/
def unmarked : List UInt8 → List UInt8
  | 0xEF :: 0xBB :: 0xBF :: rest => rest
  | bytes => bytes

/-- The members of the table that a file spells. Bytes that encode no character
    are read as replacement characters. -/
def members (f : SourceFile) : Except Error Members :=
  match Toml.read? (Text.Utf8.decodeLossy (unmarked f.contents)) with
  | some table => .ok (Value.ofMembers f.path table)
  | none => .error (.notDocument f.path)

end SourceFile

/-- What the environment gives, a later variable replacing an earlier one of
    the same meaning. -/
def environmentMembers (env : Environment) : Except Error Members := do
  let given ← env.settings.mapM (fun (key, value) =>
    match Text.Utf8.decode? value with
    | some text => Except.ok (key, Value.scalar text none)
    | none => .error (.notEncoded key value))
  return given.foldl (fun all (key, v) => Value.put all key v) []

/-- A source laid over the ones before it. -/
def lay (all source : Members) : Members :=
  source.foldl (fun all (name, v) => Value.set all (Path.ofName name) v) all

/-- All sources laid over one another. -/
def gather (files : List SourceFile) (env : Environment) : Except Error Members := do
  let all ← files.foldlM (fun all f => return lay all (← f.members)) []
  return lay all (← environmentMembers env)

/-! ### Settings -/

def text? (all : Members) (key : String) : Except Error (Option String) :=
  match Value.member all key with
  | .absent => .ok none
  | .scalar text _ => .ok (some text)
  | .list _ origin => .error (.notText .list key origin)
  | .table _ => .error (.notText .table key none)

def levelKey : String := "log_level"

def directoryKey : String := "logs_directory"

/-- The settings that the values of all sources give. -/
def settings (all : Members) : Except Error Settings := do
  let level ← text? all levelKey
  let directory ← text? all directoryKey
  return ⟨(level.map Log.Level.readOrInfo).getD .default, directory⟩

/-- The settings that files, in order, and the environment give. -/
def load (files : List SourceFile) (env : Environment) : Except Error Settings := do
  settings (← gather files env)

/-! ### Where the files are -/

/-- The directory of the user's own configuration: an absolute one that the
    environment names, or else a directory in the user's home. There is none if
    the path of the one that counts is no text. The home is the one that the
    environment names; where it names none, the system's list of users is not
    asked for one. -/
def userDirectory? (env : Environment) : Option String :=
  match env.get? "XDG_CONFIG_HOME" with
  | some (0x2F :: rest) => Text.Utf8.decode? (0x2F :: rest)
  | _ => do
    let home ← Text.Utf8.decode? (← env.get? "HOME")
    if home.isEmpty then none else some (File.Path.join home ".config")

/-- The paths of the configuration files, the user's own before the project's. -/
def filePaths (env : Environment) (root : String) : List String :=
  (userDirectory? env).toList.map (fun dir => File.Path.join dir "gls/gls.toml") ++
    [File.Path.join root ".gls.toml", File.Path.join root "gls.toml"]

/-- The paths at which the file that a configuration path stands for is looked for,
    one after the other. -/
def candidates (path : String) : List String := [path, path ++ ".toml"]

/-- The file that a configuration path stands for: the one at the path, or else
    one whose name goes on with its extension. -/
def sourceFile? (t : File.Tree) (start : File.Place) (path : String) : Option SourceFile :=
  (candidates path).findSome? (fun p => (t.read? start p).map (⟨p, ·⟩))

/-- The configuration files that there are, in order. -/
def sourceFiles (t : File.Tree) (start : File.Place) (env : Environment) (root : String) :
    List SourceFile :=
  (filePaths env root).filterMap (sourceFile? t start)

end DocSync.Config
