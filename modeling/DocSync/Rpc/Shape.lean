import DocSync.Json
import DocSync.Uri

/-! # Shapes of values

  What the parameters of a method have to look like. A `record` is an object
  with certain members, or the list of all their values in order; an `object`
  is never a list. Members beyond those listed are not looked at, but for an
  `extended` object, whose other members all have one shape. A member of an
  `optional` shape may be missing or null, one of a `defaulted` shape only
  missing.
-/

namespace DocSync.Rpc

/-- The form of a value. -/
inductive Shape where
  | any
  | text
  | uri
  | flag
  | number
  | integer (size : Word)
  /-- One of a few texts, or an object with null under one of them. -/
  | oneOf (texts : List String)
  | list (element : Shape)
  | pair (element : Shape)
  | optional (shape : Shape)
  | defaulted (shape : Shape)
  | either (one other : Shape)
  | record (members : List (String × Shape))
  | object (members : List (String × Shape))
  | extended (members : List (String × Shape)) (other : Shape)
  /-- An object with names that fit the first shape and values that fit the second. -/
  | table (name value : Shape)
  /-- A record of one of several kinds, which is told by its member `kind`. The
      kind comes first if the record is a list, and may be given by its place. -/
  | variant (kinds : List (String × Shape))

namespace Shape

def isUri (s : String) : Bool :=
  match Uri.check s with
  | .ok () => true
  | .error _ => false

/-- Tells whether an object holds null under a single name, one of a few. -/
def isNamedNull (texts : List String) (v : Json) : Bool :=
  match v with
  | .object ((name, _) :: others) =>
    others.all (·.1 == name) && texts.contains name && (v.given? name).isNone
  | _ => false

/-- Tells whether a value is the name of a kind or the place at which it is listed. -/
def isKind (name : String) (place : Nat) : Json → Bool
  | .string s => s == name
  | .integer n => n == place
  | _ => false

mutual

/-- Tells whether a value has a shape. A missing value is given as `none`. -/
def fits : Shape → Option Json → Bool
  | .optional _, none => true
  | .optional _, some .null => true
  | .optional shape, some v => shape.fits (some v)
  | .defaulted _, none => true
  | .defaulted shape, some v => shape.fits (some v)
  | .any, some _ => true
  | .text, some (.string _) => true
  | .uri, some (.string s) => isUri s
  | .flag, some (.bool _) => true
  | .number, some (.integer _) => true
  | .number, some (.real _) => true
  | .integer size, some (.integer n) => size.admits n
  | .oneOf texts, some (.string s) => texts.contains s
  | .oneOf texts, some (.object given) => isNamedNull texts (.object given)
  | .list element, some (.array items) => items.all (fun v => element.fits (some v))
  | .pair element, some (.array [one, other]) =>
    element.fits (some one) && element.fits (some other)
  | .either one other, some v => one.fits (some v) || other.fits (some v)
  | .record members, some (.array items) =>
    items.length == members.length && fitInOrder members items
  | .record members, some (.object given) => fitByName members (.object given)
  | .object members, some (.object given) => fitByName members (.object given)
  | .extended members other, some (.object given) =>
    fitByName members (.object given) && given.all (fun (name, _) =>
      (members.map Prod.fst).contains name || other.fits ((Json.object given).field? name))
  | .table key value, some (.object given) => given.all (fun (name, _) =>
      key.fits (some (.string name)) && value.fits ((Json.object given).field? name))
  | .variant kinds, some (.array (kind :: rest)) => fitKind kinds 0 kind (.array rest)
  | .variant kinds, some (.object given) =>
    match (Json.object given).field? "kind" with
    | some kind => fitKind kinds 0 kind (.object given)
    | none => false
  | _, _ => false

/-- Tells whether the members of an object have their shapes. -/
def fitByName : List (String × Shape) → Json → Bool
  | [], _ => true
  | (name, shape) :: rest, v => shape.fits (v.field? name) && fitByName rest v

/-- Tells whether values have the shapes of members in order. -/
def fitInOrder : List (String × Shape) → List Json → Bool
  | (_, shape) :: rest, v :: others => shape.fits (some v) && fitInOrder rest others
  | _, _ => true

/-- Tells whether a value has the shape of its kind. The kinds are listed from a
    place on. -/
def fitKind : List (String × Shape) → Nat → Json → Json → Bool
  | [], _, _, _ => false
  | (name, shape) :: rest, place, kind, v =>
    if isKind name place kind then shape.fits (some v) else fitKind rest (place + 1) kind v

end

/-! ### Numbers and flags -/

/-- A number of 32 bits without sign. -/
def natural32 : Shape := .integer .nat32

/-- A number of 32 bits with a sign. -/
def integer32 : Shape := .integer .int32

def optionalFlag : Shape := .optional .flag

def optionalText : Shape := .optional .text

def optionalInteger : Shape := .optional integer32

/-- A value of any shape that may be missing. -/
def extra : Shape := .optional .any

/-- A record that may be missing. -/
def part (members : List (String × Shape)) : Shape := .optional (.record members)

end Shape

end DocSync.Rpc
