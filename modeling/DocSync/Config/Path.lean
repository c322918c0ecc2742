import DocSync.Config.Value
import DocSync.Decimal
import DocSync.Word

/-! # Paths as names

  The name under which a source gives a value may be a path: names with points
  between them, and positions in brackets after names. A name that is no such
  path stands for itself.
-/

namespace DocSync.Config.Path

/-- Tells whether a character may belong to a name within a path. -/
def isNameChar (c : Char) : Bool := c.isAlphanum || c == '_' || c == '-'

def name? (text : List Char) : Option (String × List Char) :=
  let row := text.takeWhile isNameChar
  if row.isEmpty then none else some (String.ofList row, text.dropWhile isNameChar)

/-- Tells whether a character may stand around a position in its brackets. -/
def isSpace (c : Char) : Bool := c == ' ' || c == '\t'

/-- A position, which fits 64 bits with a sign, up to its closing bracket. -/
def index? (text : List Char) : Option (Int × List Char) :=
  let (negative, unsigned) := match text.dropWhile isSpace with
    | '-' :: rest => (true, rest)
    | rest => (false, rest)
  let row := unsigned.takeWhile Char.isDigit
  let n : Int := if negative then -Decimal.ofDigits row else Decimal.ofDigits row
  match (unsigned.dropWhile Char.isDigit).dropWhile isSpace with
  | ']' :: rest => if !row.isEmpty && Word.int64.admits n then some (n, rest) else none
  | _ => none

/-- The steps that are all of a text. The first argument bounds their number. -/
def steps? : Nat → List Char → Option (List Step)
  | _, [] => some []
  | fuel + 1, '.' :: rest => do
    let (name, rest) ← name? rest
    return .member name :: (← steps? fuel rest)
  | fuel + 1, '[' :: rest => do
    let (i, rest) ← index? rest
    return .index i :: (← steps? fuel rest)
  | _, _ => none

/-- The path that a name spells. -/
def read? (text : String) : Option Path := do
  let (root, rest) ← name? text.toList
  return ⟨root, ← steps? rest.length rest⟩

def ofName (text : String) : Path := (read? text).getD ⟨text, []⟩

end DocSync.Config.Path
