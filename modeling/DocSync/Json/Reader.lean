import DocSync.Decimal.Binary64
import DocSync.Json

/-! # Reading JSON

  Reads the JSON of RFC 8259, without leniency: no comments, no trailing
  commas, no controls within texts, no half of a surrogate pair alone. A number
  too great for double precision is refused, and so is a value that nests
  lists and objects more than `maxDepth` deep.

  `readFirst` reads the value at the front of a text, and `read` the value that
  is the whole of a text.
-/

namespace DocSync.Json

/-- Takes a value from the front of a text. -/
abbrev Reader (α : Type) := List Char → Option (α × List Char)

/-- How deep lists and objects may nest. -/
def maxDepth : Nat := 127

/-- The white space between tokens. -/
def isSpace (c : Char) : Bool := c == ' ' || c == '\n' || c == '\t' || c == '\r'

/-- The text from the next token on. -/
def skipSpace (text : List Char) : List Char := text.dropWhile isSpace

/-! ### Texts -/

def hexValue? (c : Char) : Option Nat :=
  if c.isDigit then some (c.toNat - '0'.toNat)
  else if 'a' ≤ c ∧ c ≤ 'f' then some (c.toNat - 'a'.toNat + 10)
  else if 'A' ≤ c ∧ c ≤ 'F' then some (c.toNat - 'A'.toNat + 10)
  else none

/-- The number that four hexadecimal digits spell. -/
def hex4? (a b c d : Char) : Option Nat := do
  return (((← hexValue? a) * 16 + (← hexValue? b)) * 16 + (← hexValue? c)) * 16 +
    (← hexValue? d)

/-- The characters up to the closing quote, as they are written, and the text
    after that. -/
def quotedBody : Reader (List Char)
  | [] => none
  | '"' :: rest => some ([], rest)
  | '\\' :: c :: rest => (quotedBody rest).map (fun (body, after) => ('\\' :: c :: body, after))
  | c :: rest =>
    if c.toNat < 0x20 then none
    else (quotedBody rest).map (fun (body, after) => (c :: body, after))

/-- The character after a backslash, if it stands for one by itself. -/
def shortEscape? : Char → Option Char
  | '"' => some '"'
  | '\\' => some '\\'
  | '/' => some '/'
  | 'b' => some '\x08'
  | 'f' => some '\x0c'
  | 'n' => some '\n'
  | 'r' => some '\r'
  | 't' => some '\t'
  | _ => none

/-- The characters that a body spells. Four digits spell a character of their
    own, or the first half of a pair that four more have to complete. -/
def unescape : List Char → Option (List Char)
  | [] => some []
  | '\\' :: 'u' :: a :: b :: c :: d :: rest =>
    match hex4? a b c d with
    | none => none
    | some n =>
      if n < 0xD800 ∨ 0xDFFF < n then (unescape rest).map (Char.ofNat n :: ·)
      else if 0xDBFF < n then none
      else match rest with
        | '\\' :: 'u' :: e :: f :: g :: h :: rest =>
          match hex4? e f g h with
          | none => none
          | some m =>
            if 0xDC00 ≤ m ∧ m ≤ 0xDFFF then
              (unescape rest).map
                (Char.ofNat (0x10000 + (n - 0xD800) * 0x400 + (m - 0xDC00)) :: ·)
            else none
        | _ => none
  | '\\' :: c :: rest =>
    match shortEscape? c with
    | none => none
    | some e => (unescape rest).map (e :: ·)
  | c :: rest => if c = '\\' then none else (unescape rest).map (c :: ·)

/-- A text after its opening quote. -/
def quoted : Reader String := fun text => do
  let (body, rest) ← quotedBody text
  return (String.ofList (← unescape body), rest)

/-! ### Numbers -/

/-- A row of digits, at least one. -/
def digits : Reader (List Char) := fun text =>
  let row := text.takeWhile Char.isDigit
  if row.isEmpty then none else some (row, text.dropWhile Char.isDigit)

/-- A row of digits that does not start with an idle zero. -/
def wholeDigits : Reader (List Char) := fun text => do
  let (row, rest) ← digits text
  if 1 < row.length ∧ row.head? = some '0' then none else some (row, rest)

/-- The digits after a point, none if there is no point. -/
def fractionDigits : Reader (List Char)
  | '.' :: rest => digits rest
  | text => some ([], text)

/-- The power of ten, if one is given. -/
def powerOfTen : Reader (Option Int)
  | c :: rest =>
    if c = 'e' ∨ c = 'E' then
      let (negative, unsigned) := match rest with
        | '-' :: r => (true, r)
        | '+' :: r => (false, r)
        | r => (false, r)
      (digits unsigned).map (fun (row, after) =>
        let n : Int := Decimal.ofDigits row
        (some (if negative then -n else n), after))
    else some (none, c :: rest)
  | [] => some (none, [])

/-- A whole number as a value; one that does not fit 64 bits is a real. -/
def ofWhole (negative : Bool) (n : Nat) : Json :=
  if !negative && Word.nat64.admits n then .integer n
  else if negative && 0 < n && Word.int64.admits (-n) then .integer (-n)
  else .real ⟨negative, n, 0⟩

/-- The number that digits spell after those of a number, as far as it fits 64
    bits, and the digits that are left. -/
def leading : Nat → List Char → Nat × List Char
  | n, [] => (n, [])
  | n, c :: rest =>
    let m := 10 * n + Decimal.digitValue c
    if Word.nat64.admits m then leading m rest else (n, c :: rest)

/-- The leading digits of a number and the power of ten that belongs to them.
    Digits that are left count for the power before the point only. -/
def significant (whole fraction : List Char) (power : Int) : Decimal :=
  let (n, leftOfWhole) := leading 0 whole
  let (m, leftOfFraction) := leading n fraction
  ⟨false, m, power + leftOfWhole.length + leftOfFraction.length - fraction.length⟩

/-- Tells whether double precision can hold a number. The leading digits and the
    power of ten are each rounded by themselves before they are multiplied, so
    that the greatest numbers of all may be out of reach. -/
def isHeld (d : Decimal) : Bool :=
  d.mantissa == 0 || d.exponent < 0 || (d.exponent ≤ 308 &&
    (do
      (← Binary64.nearest? ⟨false, d.mantissa, 0⟩).mul?
        (← Binary64.nearest? ⟨false, 1, d.exponent⟩)).isSome)

def number : Reader Json := fun text => do
  let (negative, unsigned) := match text with
    | '-' :: r => (true, r)
    | r => (false, r)
  let (whole, rest) ← wholeDigits unsigned
  let (fraction, rest) ← fractionDigits rest
  let (power, rest) ← powerOfTen rest
  if !isHeld (significant whole fraction (power.getD 0)) then none
  let v :=
    if fraction.isEmpty && power.isNone then ofWhole negative (Decimal.ofDigits whole)
    else .real (Decimal.ofParts negative whole fraction (power.getD 0))
  return (v, rest)

/-! ### Values -/

/-- A fixed word, for a value that it names. -/
def word (name : String) (v : Json) : Reader Json := fun text =>
  if name.toList.isPrefixOf text then some (v, text.drop name.length) else none

/-- Elements with commas between them, at least one, up to a closing bracket. The
    first argument bounds the number of elements. -/
def separated {α : Type} (element : Reader α) (close : Char) : Nat → Reader (List α)
  | 0, _ => none
  | fuel + 1, text => do
    let (first, rest) ← element text
    match skipSpace rest with
    | ',' :: rest =>
      let (others, rest) ← separated element close fuel rest
      return (first :: others, rest)
    | c :: rest => if c = close then some ([first], rest) else none
    | [] => none

/-- Elements up to a closing bracket, maybe none. -/
def enclosed {α : Type} (element : Reader α) (close : Char) : Reader (List α) := fun text =>
  match skipSpace text with
  | [] => none
  | c :: rest =>
    if c = close then some ([], rest) else separated element close text.length (c :: rest)

/-- A name, a colon and a value. -/
def member (value : Reader Json) : Reader (String × Json) := fun text =>
  match skipSpace text with
  | '"' :: rest => do
    let (name, rest) ← quoted rest
    match skipSpace rest with
    | ':' :: rest =>
      let (v, rest) ← value rest
      return ((name, v), rest)
    | _ => none
  | _ => none

/-- A value whose elements, if it may have any, are read by `inner`. -/
def shallow (inner : Option (Reader Json)) : Reader Json := fun text =>
  match skipSpace text with
  | '"' :: rest => (quoted rest).map (fun (text, rest) => (.string text, rest))
  | '[' :: rest => do
    let (items, rest) ← enclosed (← inner) ']' rest
    return (.array items, rest)
  | '{' :: rest => do
    let (members, rest) ← enclosed (member (← inner)) '}' rest
    return (.object members, rest)
  | 't' :: rest => word "true" (.bool true) ('t' :: rest)
  | 'f' :: rest => word "false" (.bool false) ('f' :: rest)
  | 'n' :: rest => word "null" .null ('n' :: rest)
  | rest => number rest

/-- A value that nests at most so deep. -/
def value : Nat → Reader Json
  | 0 => shallow none
  | depth + 1 => shallow (some (value depth))

/-- The value at the front of a text, and what follows it. -/
def readFirst : Reader Json := value maxDepth

/-- Only white space is left. -/
def atEnd (text : List Char) : Bool := (skipSpace text).isEmpty

/-- The value that a text spells. -/
def read (text : String) : Option Json := do
  let (v, rest) ← readFirst text.toList
  if atEnd rest then some v else none

end DocSync.Json
