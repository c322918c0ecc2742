import DocSync.Rpc.Method
import DocSync.Server

/-! # Parameters of the server's own methods

  How the parameters of a method become a call of the server. Every structure
  of the protocol may be given as an object or as the list of all its members
  in order. Parameters that do not fit give no call.
-/

namespace DocSync.Rpc.Params

/-! ### Structures -/

/-- The values of the members of a structure; a missing member is `none`. -/
def members? (names : List String) : Json → Option (List (Option Json))
  | .object given => some (names.map (Json.object given).field?)
  | .array items => if items.length = names.length then some (items.map some) else none
  | _ => none

def text? (v : Option Json) : Option String := v.bind Json.text?

/-- A number of 32 bits with a sign. -/
def integer32? (v : Option Json) : Option Int := v.bind (Json.integer? .int32)

/-- A number of 32 bits without sign. -/
def natural32? (v : Option Json) : Option Nat :=
  (v.bind (Json.integer? .nat32)).map Int.toNat

def uri? (v : Option Json) : Option Uri := (text? v).bind (fun t => (Uri.parse t).toOption)

/-- A member that may be missing or null, and otherwise has to be read by `f`. -/
def optional {α : Type} (f : Option Json → Option α) : Option Json → Option (Option α)
  | none => some none
  | some .null => some none
  | some v => (f (some v)).map some

/-! ### Parts of documents -/

/-- A place in a document. -/
def position? (v : Option Json) : Option Server.Position := do
  match ← members? ["line", "character"] (← v) with
  | [line, character] => return ⟨← natural32? line, ← natural32? character⟩
  | _ => none

/-- A stretch of a document. -/
def range? (v : Option Json) : Option Server.Range := do
  match ← members? ["start", "end"] (← v) with
  | [start, stop] => return ⟨← position? start, ← position? stop⟩
  | _ => none

def change? (v : Json) : Option Server.Change := do
  match ← members? ["range", "rangeLength", "text"] v with
  | [range, length, text] =>
    let range ← optional range? range
    let _ ← optional natural32? length
    return ⟨← text? text, range⟩
  | _ => none

def changes? (v : Option Json) : Option (List Server.Change) := do
  (← (← v).items?).mapM change?

/-! ### Calls -/

/-- The name that a client gives itself, if any; parameters of another shape
    than the protocol's are refused. -/
def startup? (v : Json) : Option Server.Call := do
  if !Shape.startup.fits (some v) then none
  else
    let client ← optional (fun info => info.bind (members? ["name", "version"]))
      (v.field? "clientInfo")
    match client with
    | some (name :: _) => return .startup (some (← text? name))
    | _ => return .startup none

def didOpen? (v : Json) : Option Server.Call := do
  match ← members? ["textDocument"] v with
  | [document] =>
    match ← members? ["uri", "languageId", "version", "text"] (← document) with
    | [uri, language, version, text] =>
      return .didOpen (← uri? uri) (← text? language) (← integer32? version) (← text? text)
    | _ => none
  | _ => none

def didChange? (v : Json) : Option Server.Call := do
  match ← members? ["textDocument", "contentChanges"] v with
  | [document, changes] =>
    match ← members? ["uri", "version"] (← document) with
    | [uri, version] =>
      return .didChange (← uri? uri) (← integer32? version) (← changes? changes)
    | _ => none
  | _ => none

def didClose? (v : Json) : Option Server.Call := do
  match ← members? ["textDocument"] v with
  | [document] =>
    match ← members? ["uri"] (← document) with
    | [uri] => return .didClose (← uri? uri)
    | _ => none
  | _ => none

/-- The call that a method makes with its parameters. Only `shutdown` does
    without parameters, and allows no others than null. -/
def call? (method : Method) (params : Option Json) : Option Server.Call :=
  match method, params with
  | .startup, some v => startup? v
  | .initialized, some (.object _) => some .initialized
  | .initialized, some (.array []) => some .initialized
  | .shutdown, none => some .shutdown
  | .shutdown, some .null => some .shutdown
  | .didOpen, some v => didOpen? v
  | .didChange, some v => didChange? v
  | .didClose, some v => didClose? v
  | _, _ => none

end DocSync.Rpc.Params
