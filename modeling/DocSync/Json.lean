import DocSync.Decimal
import DocSync.Word

/-! # JSON values

  Numbers are of two kinds. A number written without point and exponent is an
  `integer` as long as it fits 64 bits, signed or unsigned; every other number
  is a `real`, the negative zero among them.

  An object keeps its members as they were written, so that a repeated name can
  be told from a single one. Where that does not matter `field?` gives the last
  member of a name.
-/

namespace DocSync

inductive Json where
  | null
  | bool (value : Bool)
  | integer (value : Int)
  | real (value : Decimal)
  | string (text : String)
  | array (items : List Json)
  | object (members : List (String × Json))
  deriving Repr, Inhabited

namespace Json

/-- The last member of a name. -/
def field? (v : Json) (name : String) : Option Json :=
  match v with
  | .object members => members.reverse.lookup name
  | _ => none

/-- The last member of a name, unless it is null. -/
def given? (v : Json) (name : String) : Option Json :=
  match v.field? name with
  | some .null => none
  | other => other

def text? : Json → Option String
  | .string text => some text
  | _ => none

/-- An integer of a machine size. -/
def integer? (size : Word) : Json → Option Int
  | .integer n => size.take? n
  | _ => none

def items? : Json → Option (List Json)
  | .array items => some items
  | _ => none

end Json

end DocSync
