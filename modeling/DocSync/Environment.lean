import DocSync.Text.LowerCase
import DocSync.Text.Utf8

/-! # The environment

  The variables of the environment, in order, as the bytes that they are. Those
  whose name starts with `GLS_` in whatever case configure the server: the rest
  of the name, in lower case, says what. A variable whose name is no text is
  passed over; one that configures the server has to have a text as its value.
-/

namespace DocSync

abbrev Environment := List (List UInt8 × List UInt8)

namespace Environment

/-! ### Blocks -/

/-- The runs of bytes that a zero byte ends each. -/
def terminated : List UInt8 → List (List UInt8)
  | [] => []
  | b :: rest =>
    if b = 0 then [] :: terminated rest
    else match terminated rest with
      | [] => [[b]]
      | first :: others => (b :: first) :: others

/-- The name and the value on either side of an equals sign, which is not looked
    for in the first place. -/
def entry? : List UInt8 → Option (List UInt8 × List UInt8)
  | [] => none
  | b :: rest =>
    match rest.span (· ≠ 0x3D) with
    | (name, _ :: value) => some (b :: name, value)
    | (_, []) => none

/-- The environment in the form in which a system hands it to a program. -/
def ofBlock (bytes : List UInt8) : Environment := (terminated bytes).filterMap entry?

/-! ### Variables -/

/-- The environment with a variable set. One that is already there keeps its place. -/
def set (env : Environment) (name value : List UInt8) : Environment :=
  if env.any (·.1 == name) then env.map (fun (n, v) => (n, if n == name then value else v))
  else env ++ [(name, value)]

def get? (env : Environment) (name : String) : Option (List UInt8) :=
  env.lookup (Text.Utf8.encode name)

/-- How the names of the variables that configure the server start. -/
def namePrefix : String := "gls_"

def configured? (name : List UInt8) : Option String := do
  let chars := (Text.lower (← Text.Utf8.decode? name)).toList
  if namePrefix.toList.isPrefixOf chars then some (String.ofList (chars.drop namePrefix.length))
  else none

/-- What the environment configures, in order. -/
def settings (env : Environment) : List (String × List UInt8) :=
  env.filterMap (fun (name, value) => (configured? name).map (·, value))

end Environment

end DocSync
