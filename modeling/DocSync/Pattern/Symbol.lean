import DocSync.Pattern
import DocSync.Pattern.Flags

/-! # Symbols of written patterns

  The smallest parts of a written pattern. Most characters stand for
  themselves. A backslash in front of a sign takes it as it is; in front of
  some letters it makes up a set of characters, a control, a character by its
  code point, or a mark for a place. Sets and marks that would need tables of
  Unicode are refused as long as the flag `unicode` is on.
-/

namespace DocSync.Pattern

open Text (CharSet)

/-- A smallest part of a written pattern. -/
inductive Symbol where
  /-- A character, which may be meant as a byte. -/
  | char (c : Char) (isByte : Bool)
  | set (s : CharSet)
  | place (a : Assertion)
  deriving DecidableEq, Repr

namespace Symbol

/-! ### Code points -/

def hexValue? (c : Char) : Option Nat :=
  if c.isDigit then some (c.toNat - '0'.toNat)
  else if 'a' ≤ c ∧ c ≤ 'f' then some (c.toNat - 'a'.toNat + 10)
  else if 'A' ≤ c ∧ c ≤ 'F' then some (c.toNat - 'A'.toNat + 10)
  else none

/-- The number that so many hexadecimal digits spell. -/
def hex? (flags : Flags) (n : Nat) : Nat → List Char → Option (Nat × List Char)
  | 0, rest => some (n, flags.skip rest)
  | count + 1, rest =>
    match flags.skip rest with
    | [] => none
    | c :: rest => do hex? flags (16 * n + (← hexValue? c)) count rest

/-- The character that so many hexadecimal digits name. -/
def byCodePoint? (flags : Flags) (count : Nat) (text : List Char) :
    Option (Symbol × List Char) := do
  let (n, rest) ← hex? flags 0 count text
  if n.isValidChar then return (.char (Char.ofNat n) (count == 2), rest) else none

/-! ### Sets and places -/

/-- A set that is known without `unicode` only, and only if it is in ASCII. -/
def asciiSet? (flags : Flags) (s : CharSet) : Option Symbol :=
  if flags.has .unicode then none else some (.set s)

/-- A place that is known without `unicode` only. -/
def asciiPlace? (flags : Flags) (a : Assertion) : Option Symbol :=
  if flags.has .unicode then none else some (.place a)

/-- What any character stands for, but for the end of a line. -/
def anyChar? (flags : Flags) : Option Symbol :=
  if !flags.has .unicode then none
  else if flags.has .dotAll then some (.set .all)
  else
    let feed := CharSet.single '\n'
    some (.set (CharSet.compl
      (if flags.has .anyBreaks then feed.union (.single '\r') else feed)))

/-- The start of the text or of a line. -/
def start (flags : Flags) : Symbol :=
  .place (if !flags.has .multiLine then .textStart
    else if flags.has .anyBreaks then .anyLineStart else .lineStart)

/-- The end of the text or of a line. -/
def stop (flags : Flags) : Symbol :=
  .place (if !flags.has .multiLine then .textEnd
    else if flags.has .anyBreaks then .anyLineEnd else .lineEnd)

/-! ### Reading -/

/-- Tells whether a backslash takes a character as it is. -/
def isSign (c : Char) : Bool :=
  c.toNat < 0x80 && !c.isAlphanum && c != '<' && c != '>'

/-- What a character stands for behind a backslash, if it needs no others. -/
def escaped? (flags : Flags) (c : Char) : Option Symbol :=
  if isSign c then some (.char c false)
  else
    match c with
    | 'a' => some (.char '\x07' false)
    | 'f' => some (.char '\x0c' false)
    | 't' => some (.char '\t' false)
    | 'n' => some (.char '\n' false)
    | 'r' => some (.char '\r' false)
    | 'v' => some (.char '\x0b' false)
    | 'A' => some (.place .textStart)
    | 'z' => some (.place .textEnd)
    | 'b' => asciiPlace? flags .wordBoundary
    | 'B' => asciiPlace? flags .noWordBoundary
    | '<' => asciiPlace? flags .wordStart
    | '>' => asciiPlace? flags .wordEnd
    | 'd' => asciiSet? flags .digits
    | 's' => asciiSet? flags .blanks
    | 'w' => asciiSet? flags .wordChars
    | _ => none

/-- Reads what comes after a backslash. -/
def readEscaped? (flags : Flags) : List Char → Option (Symbol × List Char)
  | [] => none
  | 'x' :: rest => byCodePoint? flags 2 rest
  | 'u' :: rest => byCodePoint? flags 4 rest
  | 'U' :: rest => byCodePoint? flags 8 rest
  | c :: rest => (escaped? flags c).map (·, rest)

/-- Reads a symbol outside of brackets. -/
def read? (flags : Flags) : List Char → Option (Symbol × List Char)
  | [] => none
  | '\\' :: rest => readEscaped? flags rest
  | '.' :: rest => (anyChar? flags).map (·, rest)
  | '^' :: rest => some (start flags, rest)
  | '$' :: rest => some (stop flags, rest)
  | c :: rest => some (.char c false, rest)

def readWithin? (flags : Flags) : List Char → Option (Symbol × List Char)
  | [] => none
  | '\\' :: rest => readEscaped? flags rest
  | c :: rest => some (.char c false, rest)

/-! ### Meaning -/

/-- The set that a character stands for. Without `unicode` a byte has to be in
    ASCII. Cases can be told apart in ASCII only, and only without `unicode`. -/
def charSet? (flags : Flags) (c : Char) (isByte : Bool) : Option CharSet :=
  let isAscii := c.toNat < 0x80
  if flags.has .unicode then
    if flags.has .ignoreCase then none else some (.single c)
  else if isByte && !isAscii then none
  else if !flags.has .ignoreCase then some (.single c)
  else if isAscii then some (CharSet.single c).withBothCases
  else none

def pattern? (flags : Flags) : Symbol → Option Pattern
  | .char c isByte => (charSet? flags c isByte).map .one
  | .set s => some (.one s)
  | .place a => some (.place a)

end Symbol

end DocSync.Pattern
