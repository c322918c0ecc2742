import DocSync.Decimal.Binary64
import DocSync.Text.Split
import DocSync.Toml.Moment
import DocSync.Word

/-! # Scalar values of TOML

  The values that are neither lists nor tables, how those that stand without
  quotes are spelled, and the one text that each of them is shown as. A text is
  shown as itself; a number is shown in plain decimal digits.
-/

namespace DocSync.Toml

/-- A value that has no parts. -/
inductive Scalar where
  | text (value : String)
  | integer (value : Int)
  | real (value : Binary64)
  | infinity (negative : Bool)
  | notANumber
  | boolean (value : Bool)
  | moment (value : Moment)
  deriving DecidableEq, Repr

namespace Scalar

/-- The text that a value is shown as. -/
def shown : Scalar → String
  | .text value => value
  | .integer value => toString value
  | .real value => value.shortest.plain
  | .infinity false => "inf"
  | .infinity true => "-inf"
  | .notANumber => "NaN"
  | .boolean true => "true"
  | .boolean false => "false"
  | .moment value => value.text

/-! ### Rows of digits -/

/-- The digits of a row in which underscores stand only between digits. -/
def digits? (isDigit : Char → Bool) (text : List Char) : Option (List Char) :=
  let parts := Text.split '_' text
  if parts.all (fun part => !part.isEmpty && part.all isDigit) then some parts.flatten else none

/-- The digits of a row without idle zeros in front. -/
def wholeDigits? (text : List Char) : Option (List Char) := do
  let row ← digits? Char.isDigit text
  if row.head? = some '0' ∧ 1 < row.length then none else some row

/-- The sign in front, and what follows it. -/
def splitSign : List Char → Option Bool × List Char
  | '+' :: rest => (some false, rest)
  | '-' :: rest => (some true, rest)
  | chars => (none, chars)

/-! ### Integers -/

/-- The value of a digit in bases up to sixteen. -/
def digitValue (c : Char) : Nat :=
  if c.isDigit then c.toNat - '0'.toNat
  else if 'a' ≤ c ∧ c ≤ 'f' then c.toNat - 'a'.toNat + 10
  else c.toNat - 'A'.toNat + 10

def isHexDigit (c : Char) : Bool :=
  c.isDigit || ('a' ≤ c && c ≤ 'f') || ('A' ≤ c && c ≤ 'F')

/-- The number that a row of digits spells in a base. -/
def ofDigits (base : Nat) (row : List Char) : Nat :=
  row.foldl (fun n c => base * n + digitValue c) 0

/-- An integer that fits 64 bits with a sign. -/
def bounded? (n : Int) : Option Scalar := (Word.int64.take? n).map .integer

/-- An integer in decimal digits, or without a sign in another base. -/
def integer? : List Char → Option Scalar
  | '0' :: 'x' :: rest => do bounded? (ofDigits 16 (← digits? isHexDigit rest))
  | '0' :: 'o' :: rest => do
    bounded? (ofDigits 8 (← digits? (fun c => '0' ≤ c && c ≤ '7') rest))
  | '0' :: 'b' :: rest => do
    bounded? (ofDigits 2 (← digits? (fun c => c == '0' || c == '1') rest))
  | chars => do
    let (sign, rest) := splitSign chars
    let n : Int := ofDigits 10 (← wholeDigits? rest)
    bounded? (if sign = some true then -n else n)

/-! ### Reals -/

/-- The parts of a text before and after a character, if it occurs. -/
def splitAt? (p : Char → Bool) (text : List Char) : List Char × Option (List Char) :=
  match text.dropWhile (fun c => !p c) with
  | [] => (text, none)
  | _ :: rest => (text.takeWhile (fun c => !p c), some rest)

/-- A power of ten. -/
def power? (text : List Char) : Option Int := do
  let (sign, rest) := splitSign text
  let n : Int := Decimal.ofDigits (← digits? Char.isDigit rest)
  return if sign = some true then -n else n

/-- A real with a fraction, a power of ten or both, that double precision can hold. -/
def real? (text : List Char) : Option Scalar := do
  let (sign, unsigned) := splitSign text
  let (mantissa, power) := splitAt? (fun c => c == 'e' || c == 'E') unsigned
  let (whole, fraction) := splitAt? (· == '.') mantissa
  if power.isNone ∧ fraction.isNone then none
  let whole ← wholeDigits? whole
  let fraction ← match fraction with
    | none => some []
    | some f => digits? Char.isDigit f
  let power ← match power with
    | none => some 0
    | some p => power? p
  let nearest ← Binary64.nearest? (.ofParts (sign = some true) whole fraction power)
  return .real nearest

/-- The words for what is no ordinary number. -/
def special? (text : List Char) : Option Scalar :=
  let (sign, rest) := splitSign text
  if rest = "inf".toList then some (.infinity (sign = some true))
  else if rest = "nan".toList then some .notANumber
  else none

/-! ### All of them -/

def boolean? (text : List Char) : Option Scalar :=
  if text = "true".toList then some (.boolean true)
  else if text = "false".toList then some (.boolean false)
  else none

/-- The value that a text without quotes spells. -/
def read? (text : List Char) : Option Scalar :=
  boolean? text <|> special? text <|> integer? text <|> real? text <|>
    (Moment.read? text).map .moment

/-! ### Where it ends -/

/-- Tells whether a character may belong to a value without quotes. -/
def isPart (c : Char) : Bool :=
  c.isAlphanum || c == '_' || c == '+' || c == '-' || c == '.' || c == ':'

/-- Takes a value without quotes from the front of a text. A date and a time
    may have a single space between them. -/
def bare (text : List Char) : Option (Scalar × List Char) := do
  let first := text.takeWhile isPart
  let rest := text.dropWhile isPart
  match Moment.date? first, rest with
  | some (_, []), ' ' :: c :: more =>
    if c.isDigit then
      let second := (c :: more).takeWhile isPart
      return (← read? (first ++ ' ' :: second), (c :: more).dropWhile isPart)
    else return (← read? first, rest)
  | _, _ => return (← read? first, rest)

end Scalar

end DocSync.Toml
