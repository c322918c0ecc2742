import DocSync.Json

/-! # Messages of JSON-RPC

  A message of the client is a call with a method, maybe parameters and, if an
  answer is wanted, an identifier. Only the version has to be given: a missing
  method is the empty one. Besides calls the client may send answers to
  requests of the server, which are recognised so that they can be passed over.
-/

namespace DocSync.Rpc

/-! ### Calls -/

/-- What an answer is matched by. Null is an identifier too. -/
inductive Id where
  | number (n : Int)
  | text (s : String)
  | null
  deriving DecidableEq, Repr

structure Message where
  method : String
  params : Option Json
  id : Option Id

/-- The version that every message names. -/
def version : String := "2.0"

namespace Id

def ofJson? : Json → Option Id
  | .null => some .null
  | .string s => some (.text s)
  | .integer n => (Word.int64.take? n).map .number
  | _ => none

def toJson : Id → Json
  | .number n => .integer n
  | .text s => .string s
  | .null => .null

end Id

namespace Message

/-- The names of the members of a call, in the order in which they may also be
    given as a list. -/
def memberNames : List String := ["jsonrpc", "method", "params", "id"]

/-- Reads a call from its members, of which any but the version may be missing. -/
def ofMembers? (version? method? params? id? : Option Json) : Option Message := do
  if (← version?).text? ≠ some version then none
  let method ← match method? with
    | none => some ""
    | some v => v.text?
  let id ← match id? with
    | none => some none
    | some v => (Id.ofJson? v).map some
  return ⟨method, params?, id⟩

/-- Tells whether no name of a member of a call is given twice. -/
def unambiguous (members : List (String × Json)) : Bool :=
  memberNames.all (fun name => (members.filter (·.1 == name)).length ≤ 1)

def ofJson? : Json → Option Message
  | .object members =>
    if unambiguous members then
      let v := Json.object members
      ofMembers? (v.field? "jsonrpc") (v.field? "method") (v.field? "params") (v.field? "id")
    else none
  | .array items =>
    if items.length ≤ memberNames.length then
      ofMembers? items[0]? items[1]? items[2]? items[3]?
    else none
  | _ => none

end Message

/-! ### Errors and answers -/

/-- Why a request fails. -/
structure Error where
  code : Int
  message : String
  data : Option Json

namespace Error

/-- The text is no JSON. -/
def parse : Error := ⟨-32700, "Parse error", none⟩

/-- The request is not one, or is not due. -/
def invalidRequest : Error := ⟨-32600, "Invalid request", none⟩

/-- The method is known, and not available. -/
def methodNotFound : Error := ⟨-32601, "Method not found", none⟩

/-- The method is not known. -/
def unknownMethod (method : String) : Error :=
  ⟨-32601, "Method not found", some (.string method)⟩

/-- The parameters do not fit the method. -/
def invalidParams : Error := ⟨-32602, "Invalid params", none⟩

/-- The server waits to be initialized. -/
def notInitialized : Error := ⟨-32002, "Server not initialized", none⟩

def toJson (e : Error) : Json :=
  .object ([("code", .integer e.code), ("message", .string e.message)] ++
    e.data.toList.map (fun d => ("data", d)))

end Error

/-- The answer to a request. -/
structure Response where
  id : Id
  outcome : Except Error Json

namespace Response

def toJson (r : Response) : Json :=
  .object ([("jsonrpc", .string version)] ++
    (match r.outcome with
      | .ok result => [("result", result)]
      | .error e => [("error", e.toJson)]) ++
    [("id", r.id.toJson)])

/-- The names of the members of an error, in the order in which they may also be
    given as a list. -/
def errorNames : List String := ["code", "message", "data"]

/-- Tells whether a value is an error as an answer carries it. It has no other
    members, and none twice. -/
def isError (v : Json) : Bool :=
  let fits (code message : Option Json) : Bool :=
    (code.bind (Json.integer? .int64)).isSome && (message.bind Json.text?).isSome
  match v with
  | .object members =>
    members.all (fun m => errorNames.contains m.1) && (members.map (·.1)).Nodup &&
      fits (v.field? "code") (v.field? "message")
  | .array [code, message, _] => fits (some code) (some message)
  | _ => false

def given (members : List (String × Json)) (name : String) : List Json :=
  (members.filter (·.1 == name)).map (·.2)

/-- Tells whether there is one error, and no more. -/
def isSingleError : List Json → Bool
  | [e] => isError e
  | _ => false

/-- Tells whether a value is an answer of the client: a result, or else an error,
    with an identifier. None of the members that count may be given twice. -/
def isAnswer (v : Json) : Bool :=
  match v with
  | .object members =>
    match given members "jsonrpc", given members "id" with
    | [number], [id] =>
      number.text? == some version && (Id.ofJson? id).isSome &&
        ((given members "result").length == 1 || isSingleError (given members "error"))
    | _, _ => false
  | _ => false

end Response

end DocSync.Rpc
