import DocSync.Text.Utf8

/-! # Arguments of a command

  An argument is a sequence of characters in which some may be missing, because
  its bytes need not be a text. `Token.of` tells by its dashes what an argument
  is: the separator `--`, a long name with or without a value, a cluster of
  short names, or a plain word. A dash alone is a word.
-/

namespace DocSync.Command

/-- The characters of an argument; bytes that are no character are `none`. -/
abbrev Argument := List (Option Char)

namespace Argument

def ofText (text : String) : Argument := text.toList.map some

def ofBytes (bytes : List UInt8) : Argument := Text.Utf8.pieces bytes

def text? (a : Argument) : Option String := (a.mapM id).map String.ofList

end Argument

/-- What an argument is by its dashes. -/
inductive Token where
  /-- Two dashes and nothing else. -/
  | separator
  /-- Two dashes, a name and, after an equals sign, a value. -/
  | long (name : Argument) (value : Option Argument)
  /-- A dash and short names. -/
  | cluster (names : Argument)
  /-- Anything else. -/
  | word (text : Argument)
  deriving DecidableEq, Repr

namespace Token

/-- The part before the first equals sign, and the part after it. -/
def splitValue (text : Argument) : Argument × Option Argument :=
  match text.dropWhile (· ≠ some '=') with
  | [] => (text, none)
  | _ :: value => (text.takeWhile (· ≠ some '='), some value)

def of : Argument → Token
  | [some '-', some '-'] => .separator
  | some '-' :: some '-' :: rest =>
    let (name, value) := splitValue rest
    .long name value
  | some '-' :: c :: rest => .cluster (c :: rest)
  | a => .word a

end Token

end DocSync.Command
