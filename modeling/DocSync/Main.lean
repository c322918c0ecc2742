import DocSync.Json.Printer
import DocSync.Program
import DocSync.Rpc.Frame
import DocSync.Rpc.Outgoing
import Std.Time.Format

/-! # The program on its system

  Runs the program for a client on standard input and output. What is done is
  decided by `Program.prepare` and by `Program.Setup`. Here the program is shown
  what there is on its system, and what it has decided on is carried out.

  The program decides about trees. It is shown a tree with what there is at the
  places that it looks at, and gives one back as it is to be; the system is then
  changed from the one to the other.
-/

namespace DocSync.Main

/-! ### The system -/

def reason : IO.Error → String
  | .alreadyExists _ code text | .invalidArgument _ code text | .permissionDenied _ code text
  | .resourceExhausted _ code text | .inappropriateType _ code text | .noSuchThing _ code text
  | .noFileOrDirectory _ code text | .interrupted _ code text | .otherError code text
  | .resourceBusy code text | .resourceVanished code text | .unsupportedOperation code text
  | .hardwareFault code text | .unsatisfiedConstraints code text | .illegalOperation code text
  | .protocolError code text | .timeExpired code text =>
    text ++ " (os error " ++ toString code ++ ")"
  | e => toString e

def arguments : IO (List (List UInt8)) := do
  return (Environment.terminated (← IO.FS.readBinFile "/proc/self/cmdline").toList).drop 1

def environment : IO Environment := do
  return .ofBlock (← IO.FS.readBinFile "/proc/self/environ").toList

/-- The date and the time in universal time. -/
def now : IO (String × String) := do
  let clock := Std.Time.PlainDateTime.ofWallTime ((← Std.Time.Timestamp.now).toWallTime .zero)
  return (clock.date.toSQLDateString, clock.toLeanDateTimeString ++ "Z")

/-- The system's view of a path. -/
def viewOf (path : String) : IO.FS.DirEntry := ⟨path, ""⟩

def isDirectory (path : String) : IO Bool := (viewOf path).root.isDir

/-- The name that the system spells. One that is no text arrives with replacement
    characters in it, under which there is nothing; a byte that is no text then
    takes their place. -/
def nameOf (isText : Bool) (name : List Char) : File.Name :=
  name.flatMap fun c =>
    if c = Text.Utf8.replacement && !isText then [0xFF] else String.utf8EncodeChar c

def workingDirectory : IO File.Place := do
  let path := toString (← IO.currentDir)
  let isText ← isDirectory path
  return ((Text.split '/' path.toList).filter (!·.isEmpty)).map (nameOf isText)

/-- The path of the system to a place, as seen from the working directory. -/
def pathTo (here p : File.Place) : String :=
  if here.isPrefixOf p then
    match p.drop here.length with
    | [] => "."
    | names => "/".intercalate (names.map Text.Utf8.decodeLossy)
  else Text.Utf8.decodeLossy (Program.pathOf p)

/-! ### What there is -/

/-- The tree with what there is at a place. -/
def showPlace (here : File.Place) (t : File.Tree) (p : File.Place) : IO File.Tree := do
  -- The root is in every tree.
  if p.isEmpty then return t
  if ← isDirectory (pathTo here p) then return t.add p (.directory false)
  try return t.add p (.file (← IO.FS.readBinFile (pathTo here p)).toList)
  catch _ => return t

/-- The tree with what there is on a path. -/
def showPath (here : File.Place) (t : File.Tree) (path : String) : IO File.Tree :=
  (File.Tree.placesOn here (File.Path.components path)).foldlM (showPlace here) t

/-- The tree with the files in a directory, but not what is in them. The system does
    not tell when a file was made. It tells when it was last written to, which for the
    log of a day is on that day. -/
def showFiles (here : File.Place) (t : File.Tree) (dir : File.Place) : IO File.Tree := do
  let mut files := []
  for entry in ← (viewOf (pathTo here dir)).root.readDir do
    unless ← entry.path.isDir do
      files := ((← entry.path.metadata).modified, Text.Utf8.encode entry.fileName) :: files
  return (files.mergeSort (·.1 ≤ ·.1)).foldl (fun t file => t.add (dir ++ [file.2]) (.file [])) t

/-- The tree with the directory of a log file and with the files in it. -/
def showLogs (here : File.Place) (t : File.Tree) (path : String) : IO File.Tree := do
  let a := Log.Appender.ofLogFile path
  let t ← showPath here t a.directory
  match t.locate here (File.Path.components a.directory) with
  | .error _ => return t
  | .ok dir =>
    try showFiles here t dir
    catch _ => return t

/-- The situation of the program, with what there is at the places that it looks at. -/
def situation : IO Program.Situation := do
  let here ← workingDirectory
  let bare : Program.Situation :=
    ⟨← arguments, ← environment, here, .empty, (← now).1⟩
  let s := { bare with tree := ← (Program.sourcePaths bare).foldlM (showPath here) .empty }
  -- Only the settings say where the log files are.
  match Program.decided s with
  | .error _ => return s
  | .ok (root, settings) =>
    return { s with tree := ← showLogs here s.tree (settings.logFile root) }

/-! ### What is to be -/

/-- The places of one tree that are not in another. -/
def newPlaces (before after : File.Tree) : List File.Place :=
  (after.entries.map Prod.fst).filter fun p => (before.node? p).isNone

def makeDirectories (here : File.Place) (before after : File.Tree) : IO Unit := do
  for p in newPlaces before after do
    if after.isDirectoryAt p then
      try IO.FS.createDir (pathTo here p)
      catch e => unless ← isDirectory (pathTo here p) do throw e

/-- Deletes the files that are there no more. -/
def removeFiles (here : File.Place) (before after : File.Tree) : IO Unit := do
  for p in newPlaces after before do
    try IO.FS.removeFile (pathTo here p)
    catch _ => pure ()

/-- Opens a file for writing at its end, and makes it if it is not there. -/
def openFile (here p : File.Place) : IO IO.FS.Handle := IO.FS.Handle.mk (pathTo here p) .append

def makeFiles (here : File.Place) (before after : File.Tree) : IO Unit := do
  for p in newPlaces before after do
    unless after.isDirectoryAt p do let _ ← openFile here p

/-! ### The log file -/

/-- The open file of a day, of those that a log file stands for. -/
structure Journal where
  here : File.Place
  path : String
  date : String
  file : IO.FS.Handle

namespace Journal

/-- Changes the system from one tree to another, in which the file of a day is at a
    place, and opens that file. The system may refuse a change, for a reason that no
    tree shows. -/
def openAt (here : File.Place) (path date : String) (before after : File.Tree)
    (place : File.Place) : IO (Except Failure Journal) := do
  try makeDirectories here before after
  catch e => return .error ((Log.Appender.ofLogFile path).directoryFailure (reason e))
  removeFiles here before after
  try return .ok ⟨here, path, date, ← openFile here place⟩
  catch e => return .error (Log.Appender.fileFailure path (reason e))

/-- The file of another day. The one that is open stays if the other cannot be had. -/
def turn (j : Journal) (date : String) : IO Journal := do
  let before ← showLogs j.here .empty j.path
  match Log.Appender.openLog j.path date before j.here with
  | (_, .error _) => return j
  | (after, .ok place) => return (← openAt j.here j.path date before after place).toOption.getD j

/-- Writes the line of an event, into the file of its day. -/
def write (j : Journal) (e : Log.Event) : IO Journal := do
  let (date, time) ← now
  let j ← if j.date = date then pure j else j.turn date
  j.file.putStr (e.line time)
  j.file.flush
  return j

end Journal

/-! ### The client -/

def send (output : IO.FS.Stream) (message : Rpc.Outgoing) : IO Unit := do
  output.putStr (Rpc.Frame.wrap message.toJson.render)
  output.flush

/-- Reads header lines up to the empty line. There are none at the end of the input. -/
partial def readHeaders (input : IO.FS.Stream) : IO (Option (List String)) := do
  let line ← input.getLine
  if line.isEmpty then return none
  if (Text.trim line.toList).isEmpty then return some []
  return (← readHeaders input).map (line :: ·)

/-- Reads so many bytes, or as many as there are. -/
partial def readBytes (input : IO.FS.Stream) (size : Nat) : IO (List UInt8) := do
  if size = 0 then return []
  let bytes := (← input.read size.toUSize).toList
  if bytes.isEmpty then return []
  return bytes ++ (← readBytes input (size - bytes.length))

/-- Reads the body of the next frame. A body that is no text is read as an empty one. -/
partial def readBody (input : IO.FS.Stream) : IO (Option String) := do
  match ← readHeaders input with
  | none => return none
  | some lines =>
    match Rpc.Frame.bodySize? lines with
    | none => readBody input
    | some size => return some ((Text.Utf8.decode? (← readBytes input size)).getD "")

/-! ### Serving -/

/-- Carries out what is done for the client. -/
def perform (output : IO.FS.Stream) (j : Journal) : Program.Action → IO Journal
  | .log e => j.write e
  | .send message => do
    send output message
    return j

/-- Serves a client until the stream of messages ends. -/
partial def serve (setup : Program.Setup) (input output : IO.FS.Stream) (stream : Rpc.Stream)
    (j : Journal) : IO Journal := do
  unless stream.isOpen do return j
  match ← readBody input with
  | none => return j
  | some text =>
    let (after, actions) := setup.receive stream text
    serve setup input output after (← actions.foldlM (perform output) j)

/-! ### The whole program -/

/-- The code that is left where the program is broken off: one that says nothing else. -/
def brokenOff : Nat := 101

/-- Ends the program before it serves a client. -/
def halt (h : Program.Halt) : IO UInt32 := do
  (← IO.getStdout).putStr h.output
  (← IO.getStderr).putStr h.report
  return (h.exitCode?.getD brokenOff).toUInt32

/-- Runs the program and gives its exit code. -/
def run : IO UInt32 := do
  let s ← situation
  let here := s.workingDirectory
  match Program.prepare s with
  | (tree, .error h) =>
    try
      makeDirectories here s.tree tree
      removeFiles here s.tree tree
      makeFiles here s.tree tree
    catch _ => pure ()
    halt h
  | (tree, .ok setup) =>
    let path := setup.settings.logFile setup.root
    match ← Journal.openAt here path s.date s.tree tree setup.logPlace with
    | .error f => halt (.failed f)
    | .ok j =>
      let input ← IO.getStdin
      let output ← IO.getStdout
      let j ← setup.atStart.foldlM (perform output) j
      let j ← serve setup input output .initial j
      let _ ← setup.atEnd.foldlM (perform output) j
      return 0

end DocSync.Main

def main : IO UInt32 := DocSync.Main.run
