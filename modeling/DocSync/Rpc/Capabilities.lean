import DocSync.Rpc.Structures

/-! # Capabilities of clients

  What a client tells about itself when it starts up. The server makes no use
  of it, but refuses to start where it does not have the shape that the
  protocol gives it.
-/

namespace DocSync.Rpc.Shape

/-! ### Common parts -/

/-- The member of a capability that may be registered later. -/
def registration : List (String × Shape) := [("dynamicRegistration", optionalFlag)]

/-- A capability of which there is no more to tell. -/
def registrable : Shape := part registration

/-- A capability to look again at what has been shown. -/
def refreshable : Shape := part [("refreshSupport", optionalFlag)]

/-- The properties that may be filled in later. -/
def resolvable : Shape := part [("properties", .list .text)]

/-- The numbered values that a client knows. -/
def knownValues : Shape := part [("valueSet", .optional (.list integer32))]

/-- The tags that a client knows. A mere flag was enough once. -/
def knownTags : Shape :=
  .optional (.either .flag (.record [("valueSet", .list integer32)]))

/-- The ways in which a client can show texts. -/
def markupKinds : Shape := .optional (.list markupKind)

/-- A jump to another place. -/
def jump : Shape := part (registration ++ [("linkSupport", optionalFlag)])

/-! ### Workspace -/

/-- The edits of many documents that a client can make. -/
def workspaceEditing : Shape := part [
  ("documentChanges", optionalFlag),
  ("resourceOperations", .optional (.list (.oneOf ["create", "rename", "delete"]))),
  ("failureHandling",
    .optional (.oneOf ["abort", "transactional", "textOnlyTransactional", "undo"])),
  ("normalizesLineEndings", optionalFlag),
  ("changeAnnotationSupport", part [("groupsOnLabel", optionalFlag)])]

/-- What a client tells of files that come and go. -/
def fileOperations : Shape := part (registration ++
  ["didCreate", "willCreate", "didRename", "willRename", "didDelete", "willDelete"].map
    (fun name => (name, optionalFlag)))

def workspaceCapabilities : Shape := part [
  ("applyEdit", optionalFlag), ("workspaceEdit", workspaceEditing),
  ("didChangeConfiguration", registrable),
  ("didChangeWatchedFiles", part (registration ++ [("relativePatternSupport", optionalFlag)])),
  ("symbol", part (registration ++
    [("symbolKind", knownValues), ("tagSupport", knownTags), ("resolveSupport", resolvable)])),
  ("executeCommand", registrable), ("workspaceFolders", optionalFlag),
  ("configuration", optionalFlag), ("semanticTokens", refreshable), ("codeLens", refreshable),
  ("fileOperations", fileOperations), ("inlineValue", refreshable), ("inlayHint", refreshable),
  ("diagnostics", refreshable)]

/-! ### Documents -/

/-- What a client can do with one way to complete what is written. -/
def completionItemCapabilities : Shape := part [
  ("snippetSupport", optionalFlag), ("commitCharactersSupport", optionalFlag),
  ("documentationFormat", markupKinds), ("deprecatedSupport", optionalFlag),
  ("preselectSupport", optionalFlag), ("tagSupport", knownTags),
  ("insertReplaceSupport", optionalFlag), ("resolveSupport", resolvable),
  ("insertTextModeSupport", part [("valueSet", .list integer32)]),
  ("labelDetailsSupport", optionalFlag)]

/-- What a client can do to complete what is written. -/
def completionCapabilities : Shape := part (registration ++ [
  ("completionItem", completionItemCapabilities), ("completionItemKind", knownValues),
  ("contextSupport", optionalFlag), ("insertTextMode", optionalInteger),
  ("completionList", part [("itemDefaults", .optional (.list .text))])])

def signatureHelpCapabilities : Shape := part (registration ++ [
  ("signatureInformation", part [("documentationFormat", markupKinds),
    ("parameterInformation", part [("labelOffsetSupport", optionalFlag)]),
    ("activeParameterSupport", optionalFlag)]),
  ("contextSupport", optionalFlag)])

def codeActionCapabilities : Shape := part (registration ++ [
  ("codeActionLiteralSupport",
    part [("codeActionKind", .record [("valueSet", .list .text)])]),
  ("isPreferredSupport", optionalFlag), ("disabledSupport", optionalFlag),
  ("dataSupport", optionalFlag), ("resolveSupport", resolvable),
  ("honorsChangeAnnotations", optionalFlag)])

/-- What a client can show of the meaning of words. -/
def semanticTokensCapabilities : Shape := part (registration ++ [
  ("requests", .record [("range", optionalFlag),
    ("full", .optional (.either .flag (.object [("delta", optionalFlag)])))]),
  ("tokenTypes", .list .text), ("tokenModifiers", .list .text), ("formats", .list .text),
  ("overlappingTokenSupport", optionalFlag), ("multilineTokenSupport", optionalFlag),
  ("serverCancelSupport", optionalFlag), ("augmentsSyntaxTokens", optionalFlag)])

/-- What a client can show of remarks. -/
def remarkCapabilities : Shape := part [
  ("relatedInformation", optionalFlag), ("tagSupport", knownTags),
  ("versionSupport", optionalFlag), ("codeDescriptionSupport", optionalFlag),
  ("dataSupport", optionalFlag)]

def foldingCapabilities : Shape := part (registration ++ [
  ("rangeLimit", .optional natural32), ("lineFoldingOnly", optionalFlag),
  ("foldingRangeKind",
    part [("valueSet", .optional (.list (.oneOf ["comment", "imports", "region"])))]),
  ("foldingRange", part [("collapsedText", optionalFlag)])])

def documentCapabilities : Shape := part [
  ("synchronization", part (registration ++
    [("willSave", optionalFlag), ("willSaveWaitUntil", optionalFlag), ("didSave", optionalFlag)])),
  ("completion", completionCapabilities),
  ("hover", part (registration ++ [("contentFormat", markupKinds)])),
  ("signatureHelp", signatureHelpCapabilities), ("references", registrable),
  ("documentHighlight", registrable),
  ("documentSymbol", part (registration ++ [("symbolKind", knownValues),
    ("hierarchicalDocumentSymbolSupport", optionalFlag), ("tagSupport", knownTags),
    ("labelSupport", optionalFlag)])),
  ("formatting", registrable), ("rangeFormatting", registrable),
  ("onTypeFormatting", registrable), ("declaration", jump), ("definition", jump),
  ("typeDefinition", jump), ("implementation", jump), ("codeAction", codeActionCapabilities),
  ("codeLens", registrable),
  ("documentLink", part (registration ++ [("tooltipSupport", optionalFlag)])),
  ("colorProvider", registrable),
  ("rename", part (registration ++ [("prepareSupport", optionalFlag),
    ("prepareSupportDefaultBehavior", optionalInteger),
    ("honorsChangeAnnotations", optionalFlag)])),
  ("publishDiagnostics", remarkCapabilities), ("foldingRange", foldingCapabilities),
  ("selectionRange", registrable), ("linkedEditingRange", registrable),
  ("callHierarchy", registrable), ("semanticTokens", semanticTokensCapabilities),
  ("moniker", registrable), ("typeHierarchy", registrable), ("inlineValue", registrable),
  ("inlayHint", part (registration ++ [("resolveSupport", resolvable)])),
  ("diagnostic", part (registration ++ [("relatedDocumentSupport", optionalFlag)])),
  ("inlineCompletion", registrable)]

/-! ### Everything else -/

def notebookCapabilities : Shape := part [("synchronization",
  .record (registration ++ [("executionSummaryReport", optionalFlag)]))]

def windowCapabilities : Shape := part [
  ("workDoneProgress", optionalFlag),
  ("showMessage",
    part [("messageActionItem", part [("additionalPropertiesSupport", optionalFlag)])]),
  ("showDocument", part [("support", .flag)])]

def generalCapabilities : Shape := part [
  ("regularExpressions", part [("engine", .text), ("version", optionalText)]),
  ("markdown", part [("parser", .text), ("version", optionalText),
    ("allowedTags", .optional (.list .text))]),
  ("staleRequestSupport", part [("cancel", .flag), ("retryOnContentModified", .list .text)]),
  ("positionEncodings", .optional (.list .text))]

def capabilities : Shape := .record [
  ("workspace", workspaceCapabilities), ("textDocument", documentCapabilities),
  ("notebookDocument", notebookCapabilities), ("window", windowCapabilities),
  ("general", generalCapabilities), ("offsetEncoding", .optional (.list .text)),
  ("experimental", extra)]

end DocSync.Rpc.Shape
