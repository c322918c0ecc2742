import DocSync.Rpc.Capabilities

/-! # Methods of the language server protocol

  The server knows the methods of the protocol that a client may call. It acts
  on a few of them. The other requests it refuses, though only after a look at
  their parameters, whose shapes are listed here; the other notifications it
  passes over.
-/

namespace DocSync.Rpc

/-- What a method of the protocol is to the server. -/
inductive Method where
  | startup
  | initialized
  | shutdown
  | exit
  | cancel
  | didOpen
  | didChange
  | didClose
  /-- A request that the server does not act on. -/
  | otherRequest (params : Shape)
  /-- A notification that the server does not act on. -/
  | otherNotification

namespace Shape

/-! ### Common members -/

/-- A name for a piece of work. -/
def token : Shape := .optional (.either integer32 .text)

/-- The member that names the progress of the work. -/
def workDone : List (String × Shape) := [("workDoneToken", token)]

/-- The members that name the progress of the work and of its partial results. -/
def tokens : List (String × Shape) := workDone ++ [("partialResultToken", token)]

/-- The member that names a document. -/
def inDocument : List (String × Shape) := [("textDocument", document)]

/-- The members that name a place in a document. -/
def atPosition : List (String × Shape) := inDocument ++ [("position", position)]

/-! ### Starting up -/

/-- The parameters of the first request. -/
def startup : Shape := .object (workDone ++ [
  ("processId", .optional natural32), ("rootPath", optionalText), ("rootUri", .optional .uri),
  ("initializationOptions", extra), ("capabilities", capabilities),
  ("trace", .optional (.oneOf ["off", "messages", "verbose"])),
  ("workspaceFolders", .optional (.list (.record [("uri", .uri), ("name", .text)]))),
  ("clientInfo", part [("name", .text), ("version", optionalText)]),
  ("locale", optionalText)])

/-! ### Requests that are refused -/

/-- A question about a place in a document. -/
def placed : Shape := .object (atPosition ++ tokens)

/-- A question about a place in a document that has no partial results. -/
def placedAtOnce : Shape := .object (atPosition ++ workDone)

/-- A question about a whole document. -/
def whole : Shape := .object (inDocument ++ tokens)

/-- A question about a stretch of a document. -/
def ranged : Shape := .object (inDocument ++ [("range", range)] ++ tokens)

/-- A question about an element of a hierarchy. -/
def aboutItem (tags : Shape) : Shape := .object (("item", hierarchyItem tags) :: tokens)

def files (members : List (String × Shape)) : Shape :=
  .record [("files", .list (.record members))]

/-- The requests on documents, with the shapes of their parameters. -/
def documentRequests : List (String × Shape) := [
  ("willSaveWaitUntil", .record (inDocument ++ [("reason", integer32)])),
  ("declaration", placed),
  ("definition", placed),
  ("typeDefinition", placed),
  ("implementation", placed),
  ("references", .object (atPosition ++ tokens ++
    [("context", .record [("includeDeclaration", .flag)])])),
  ("prepareCallHierarchy", placedAtOnce),
  ("prepareTypeHierarchy", placedAtOnce),
  ("documentHighlight", placed),
  ("documentLink", whole),
  ("hover", placedAtOnce),
  ("codeLens", whole),
  ("foldingRange", whole),
  ("selectionRange", .object (inDocument ++ [("positions", .list position)] ++ tokens)),
  ("documentSymbol", whole),
  ("semanticTokens/full", whole),
  ("semanticTokens/full/delta", .object (inDocument ++ [("previousResultId", .text)] ++ tokens)),
  ("semanticTokens/range", ranged),
  ("inlineValue", .object (inDocument ++ workDone ++ [("range", range),
    ("context", .record [("frameId", integer32), ("stoppedLocation", range)])])),
  ("inlayHint", .object (inDocument ++ [("range", range)] ++ workDone)),
  ("moniker", placed),
  ("completion", .object (atPosition ++ tokens ++
    [("context", part [("triggerKind", integer32), ("triggerCharacter", optionalText)])])),
  ("diagnostic", .object (inDocument ++ tokens ++
    [("identifier", optionalText), ("previousResultId", optionalText)])),
  ("signatureHelp",
    .object (atPosition ++ workDone ++ [("context", .optional signatureHelpContext)])),
  ("codeAction",
    .object (inDocument ++ [("range", range)] ++ tokens ++ [("context", codeActionContext)])),
  ("documentColor", whole),
  ("colorPresentation", .object (inDocument ++ [("color", color), ("range", range)] ++ tokens)),
  ("formatting", .object (inDocument ++ [("options", formattingOptions)] ++ workDone)),
  ("rangeFormatting",
    .object (inDocument ++ [("range", range), ("options", formattingOptions)] ++ workDone)),
  ("onTypeFormatting",
    .object (atPosition ++ [("ch", .text), ("options", formattingOptions)])),
  ("rename", .object (atPosition ++ [("newName", .text)] ++ workDone)),
  ("prepareRename", .record atPosition),
  ("linkedEditingRange", placedAtOnce)]

/-- The other requests, with the shapes of their parameters. -/
def otherRequests : List (String × Shape) := [
  ("callHierarchy/incomingCalls", aboutItem (.list integer32)),
  ("callHierarchy/outgoingCalls", aboutItem (.list integer32)),
  ("typeHierarchy/supertypes", aboutItem integer32),
  ("typeHierarchy/subtypes", aboutItem integer32),
  ("documentLink/resolve", documentLink),
  ("codeLens/resolve", codeLens),
  ("inlayHint/resolve", inlayHint),
  ("completionItem/resolve", completionItem),
  ("codeAction/resolve", codeAction),
  ("workspace/diagnostic", .object (tokens ++ [("identifier", optionalText),
    ("previousResultIds", .list (.record [("uri", .uri), ("value", .text)]))])),
  ("workspace/symbol", .object (tokens ++ [("query", .text)])),
  ("workspaceSymbol/resolve", workspaceSymbol),
  ("workspace/willCreateFiles", files [("uri", .text)]),
  ("workspace/willRenameFiles", files [("oldUri", .text), ("newUri", .text)]),
  ("workspace/willDeleteFiles", files [("uri", .text)]),
  ("workspace/executeCommand", .object (workDone ++
    [("command", .text), ("arguments", .defaulted (.list .any))]))]

end Shape

namespace Method

/-- The requests that the server does not act on. -/
def requests : List (String × Shape) :=
  Shape.documentRequests.map (fun (name, shape) => ("textDocument/" ++ name, shape)) ++
    Shape.otherRequests

/-- The notifications that the server does not act on. -/
def notifications : List String := [
  "textDocument/willSave", "textDocument/didSave",
  "notebookDocument/didOpen", "notebookDocument/didChange", "notebookDocument/didSave",
  "notebookDocument/didClose",
  "workspace/didChangeConfiguration", "workspace/didChangeWorkspaceFolders",
  "workspace/didCreateFiles", "workspace/didRenameFiles", "workspace/didDeleteFiles",
  "workspace/didChangeWatchedFiles"]

def ofName? (name : String) : Option Method :=
  match name with
  | "initialize" => some .startup
  | "initialized" => some .initialized
  | "shutdown" => some .shutdown
  | "exit" => some .exit
  | "$/cancelRequest" => some .cancel
  | "textDocument/didOpen" => some .didOpen
  | "textDocument/didChange" => some .didChange
  | "textDocument/didClose" => some .didClose
  | _ =>
    match requests.lookup name with
    | some shape => some (.otherRequest shape)
    | none => if notifications.contains name then some .otherNotification else none

end Method

end DocSync.Rpc
