import DocSync.Rpc.Shape

/-! # Structures of the protocol

  The shapes that parameters of many methods are made of: places and stretches
  of documents, edits, commands, remarks and the items that a server offers.
-/

namespace DocSync.Rpc.Shape

/-! ### Documents and places in them -/

/-- A place in a document. -/
def position : Shape := .record [("line", natural32), ("character", natural32)]

/-- A stretch of a document. -/
def range : Shape := .record [("start", position), ("end", position)]

def document : Shape := .record [("uri", .uri)]

/-- A stretch of a document at a URI. -/
def location : Shape := .record [("uri", .uri), ("range", range)]

/-- How a text for the reader is to be understood. -/
def markupKind : Shape := .oneOf ["plaintext", "markdown"]

/-- A text for the reader, plain or marked up. -/
def documentation : Shape := .either .text (.record [("kind", markupKind), ("value", .text)])

def color : Shape :=
  .record [("red", .number), ("green", .number), ("blue", .number), ("alpha", .number)]

/-! ### Edits -/

/-- A new text for a stretch of a document. -/
def textEdit : Shape := .record [("range", range), ("newText", .text)]

def documentEdit : Shape := .record [
  ("textDocument", .record [("uri", .uri), ("version", optionalInteger)]),
  ("edits", .list textEdit)]

/-- What happens if a file that is to be made is there already. -/
def overwriting : Shape := part [("overwrite", optionalFlag), ("ignoreIfExists", optionalFlag)]

/-- A file that is made, renamed or deleted. -/
def fileOperation : Shape := .variant [
  ("create", .record [("uri", .uri), ("options", overwriting), ("annotationId", optionalText)]),
  ("rename", .record [("oldUri", .uri), ("newUri", .uri), ("options", overwriting),
    ("annotationId", optionalText)]),
  ("delete", .record [("uri", .uri),
    ("options", part [("recursive", optionalFlag), ("ignoreIfNotExists", optionalFlag)]),
    ("annotationId", optionalText)])]

/-- The edits of many documents, with remarks on them. -/
def workspaceEdit : Shape := .record [
  ("changes", .optional (.table .uri (.list textEdit))),
  ("documentChanges", .optional (.list (.either fileOperation documentEdit))),
  ("changeAnnotations", .optional (.table .text (.record [("label", .text),
    ("needsConfirmation", optionalFlag), ("description", optionalText)])))]

/-! ### Commands and remarks -/

/-- A command that the server can be asked for. -/
def command : Shape := .record [
  ("title", .text), ("command", .text), ("arguments", .optional (.list .any))]

/-- A remark on a document. -/
def diagnostic : Shape := .record [
  ("range", range), ("severity", optionalInteger),
  ("code", .optional (.either integer32 .text)), ("codeDescription", part [("href", .uri)]),
  ("source", optionalText), ("message", .text),
  ("relatedInformation",
    .optional (.list (.record [("location", location), ("message", .text)]))),
  ("tags", .optional (.list integer32)), ("data", extra)]

/-! ### Offered items -/

/-- A way to complete what is written. -/
def completionItem : Shape := .record [
  ("label", .text),
  ("labelDetails", part [("detail", optionalText), ("description", optionalText)]),
  ("kind", optionalInteger), ("detail", optionalText),
  ("documentation", .optional documentation), ("deprecated", optionalFlag),
  ("preselect", optionalFlag), ("sortText", optionalText), ("filterText", optionalText),
  ("insertText", optionalText), ("insertTextFormat", optionalInteger),
  ("insertTextMode", optionalInteger),
  ("textEdit", .optional (.either textEdit
    (.record [("newText", .text), ("insert", range), ("replace", range)]))),
  ("additionalTextEdits", .optional (.list textEdit)), ("command", .optional command),
  ("commitCharacters", .optional (.list .text)), ("data", extra),
  ("tags", .optional (.list integer32))]

/-- A change of the code that the user may choose. -/
def codeAction : Shape := .record [
  ("title", .text), ("kind", optionalText), ("diagnostics", .optional (.list diagnostic)),
  ("edit", .optional workspaceEdit), ("command", .optional command),
  ("isPreferred", optionalFlag), ("disabled", part [("reason", .text)]), ("data", extra)]

def codeLens : Shape := .record [("range", range), ("command", .optional command), ("data", extra)]

/-- A stretch that leads somewhere else. -/
def documentLink : Shape := .record [
  ("range", range), ("target", .optional .uri), ("tooltip", optionalText), ("data", extra)]

def inlayHintLabelPart : Shape := .record [
  ("value", .text), ("tooltip", .optional documentation), ("location", .optional location),
  ("command", .optional command)]

def inlayHint : Shape := .record [
  ("position", position), ("label", .either .text (.list inlayHintLabelPart)),
  ("kind", optionalInteger), ("textEdits", .optional (.list textEdit)),
  ("tooltip", .optional documentation), ("paddingLeft", optionalFlag),
  ("paddingRight", optionalFlag), ("data", extra)]

def workspaceSymbol : Shape := .record [
  ("name", .text), ("kind", integer32), ("tags", .optional (.list integer32)),
  ("containerName", optionalText), ("location", .either location document), ("data", extra)]

/-- An element of a hierarchy, with the shape of its tags. -/
def hierarchyItem (tags : Shape) : Shape := .record [
  ("name", .text), ("kind", integer32), ("tags", .optional tags), ("detail", optionalText),
  ("uri", .uri), ("range", range), ("selectionRange", range), ("data", extra)]

/-! ### Contexts and options -/

/-- What is known of the signatures that are shown already. -/
def activeSignatureHelp : Shape := part [
  ("signatures", .list (.record [("label", .text), ("documentation", .optional documentation),
    ("parameters", .optional (.list (.record [
      ("label", .either .text (.pair natural32)), ("documentation", .optional documentation)]))),
    ("activeParameter", .optional natural32)])),
  ("activeSignature", .optional natural32), ("activeParameter", .optional natural32)]

def signatureHelpContext : Shape := .record [
  ("triggerKind", integer32), ("triggerCharacter", optionalText), ("isRetrigger", .flag),
  ("activeSignatureHelp", activeSignatureHelp)]

def codeActionContext : Shape := .record [
  ("diagnostics", .list diagnostic), ("only", .optional (.list .text)),
  ("triggerKind", optionalInteger)]

/-- How documents are to be formatted. Any other options are flags, numbers or
    texts. -/
def formattingOptions : Shape := .extended [
  ("tabSize", natural32), ("insertSpaces", .flag), ("trimTrailingWhitespace", optionalFlag),
  ("insertFinalNewline", optionalFlag), ("trimFinalNewlines", optionalFlag)]
  (.either .flag (.either integer32 .text))

end DocSync.Rpc.Shape
