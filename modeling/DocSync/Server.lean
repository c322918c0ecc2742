import DocSync.Json
import DocSync.Log.Event
import DocSync.Store
import DocSync.Uri

/-! # The language server

  The server keeps the documents that the editor has open. The editor tells it
  of a document's whole text when it opens or changes it; of several changes in
  one notification only the first counts, and its range is not looked at.

  A call acts in two steps: `Call.edit?` is what it does to the store, and
  `Call.events` what it logs, which depends on the store only through what is
  read after the edit.
-/

namespace DocSync

/-- The identifier of the document at a URI is the text of the URI. -/
def DocumentId.ofUri (uri : Uri) : DocumentId := ⟨uri.text⟩

namespace Server

/-! ### Calls -/

/-- A place in a document. -/
structure Position where
  line : Nat
  character : Nat
  deriving DecidableEq, Repr

/-- A stretch of a document. -/
structure Range where
  start : Position
  stop : Position
  deriving DecidableEq, Repr

structure Change where
  text : String
  range : Option Range
  deriving DecidableEq, Repr

/-- What a client can ask of the server, or tell it. -/
inductive Call where
  | startup (client : Option String)
  | initialized
  | shutdown
  | didOpen (uri : Uri) (language : String) (version : Int) (text : String)
  | didChange (uri : Uri) (version : Int) (changes : List Change)
  | didClose (uri : Uri)
  deriving DecidableEq

namespace Call

/-! ### Effect on the store -/

/-- The edit that a call makes. -/
def edit? : Call → Option Store.Edit
  | .didOpen uri _ _ text => some (.openText (.ofUri uri) text)
  | .didChange uri _ (change :: _) => some (.changeText (.ofUri uri) change.text)
  | .didClose uri => some (.close (.ofUri uri))
  | _ => none

/-- The store after a call. -/
def apply (s : Store) (c : Call) : Store :=
  match c.edit? with
  | some e => s.edit e
  | none => s

/-! ### Events -/

/-- The part of the program that handles calls. -/
def target : String := "gls_server::server"

/-- An event of a call. -/
def event (severity : Log.Severity) (spans : List Log.Span) (message : String)
    (details : List Log.Field) : Log.Event :=
  ⟨severity, target, (Log.messageField, .formatted message) :: details, spans⟩

/-- The span of a call about a document. -/
def documentSpan (name : String) (uri : Uri) : Log.Span :=
  ⟨name, [("uri", .formatted uri.text)]⟩

/-- The client where it does not give its name. -/
def unknownClient : String := "unknown client"

/-- The number of lines of the document at a URI, as a field. -/
def linesField (s : Store) (uri : Uri) : Log.Field :=
  ("lines", .count (s.lineCount? (.ofUri uri)))

/-- The remarks on the changes of a notification: on a range, and on what comes
    after the first change. -/
def changeRemarks (span : Log.Span) (version : Int) (first : Change) (others : List Change) :
    List Log.Event :=
  (if first.range.isSome then
    [event .debug [span] "Ranged change applied as whole text" [("version", .integer version)]]
   else []) ++
  (if others.isEmpty then []
   else [event .debug [span] "Only the first change is applied"
     [("version", .integer version), ("ignored", .integer others.length)]])

/-- The events of a call, given the store after its edit. -/
def events (s : Store) : Call → List Log.Event
  | .startup client =>
    [event .info [⟨"initialize", []⟩] "Initializing server"
      [("client", .text (client.getD unknownClient))]]
  | .initialized => [event .info [] "Server received initialized notification" []]
  | .shutdown => [event .info [] "Shutting down" [("open_documents", .integer s.size)]]
  | .didOpen uri language version _ =>
    [event .debug [documentSpan "did_open" uri] "Opened document"
      [("version", .integer version), ("language", .formatted language), linesField s uri]]
  | .didChange uri version [] =>
    [event .warn [documentSpan "did_change" uri] "Change notification without content changes"
      [("version", .integer version)]]
  | .didChange uri version (first :: others) =>
    let span := documentSpan "did_change" uri
    changeRemarks span version first others ++
      [event .debug [span] "Changed document" [("version", .integer version), linesField s uri]]
  | .didClose uri => [event .debug [documentSpan "did_close" uri] "Closed document" []]

end Call

/-- The store after a call, and what the call logs. -/
def handle (s : Store) (c : Call) : Store × List Log.Event :=
  let after := c.apply s
  (after, c.events after)

/-- The stores and events of a sequence of calls, one for each call. -/
def run (s : Store) : List Call → List (Store × List Log.Event)
  | [] => []
  | c :: rest =>
    let next := handle s c
    next :: run next.1 rest

/-! ### Answers -/

def name : String := "Gauge Language Server"

def version : String := "0.0.0"

/-- The answer to `initialize`: documents are synchronized by their whole text. -/
def introduction : Json :=
  .object [
    ("capabilities", .object [
      ("textDocumentSync", .object [
        ("openClose", .bool true),
        ("change", .integer 1),
        ("willSave", .bool false),
        ("willSaveWaitUntil", .bool false)])]),
    ("serverInfo", .object [("name", .string name), ("version", .string version)])]

end Server

end DocSync
