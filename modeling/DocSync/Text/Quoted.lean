import DocSync.Text.Printable
import DocSync.Text.Utf8

/-! # Quoted texts

  Texts and sequences of bytes as they are shown between double quotes. The
  quote, the backslash and a few controls are written with a backslash.
  Characters that do not print, or that would merge with the one before them,
  are written by their code point.

  In a quoted sequence of bytes the single quote is written with a backslash as
  well, and bytes that are no text are written one by one. Characters that
  merge are written by their code point only where text starts, since there
  they would merge with what is no part of it.
-/

namespace DocSync.Text.Quoted

/-- A number in hexadecimal digits. -/
def hex (n : Nat) : List Char := Nat.toDigits 16 n

def byCodePoint (c : Char) : List Char :=
  ['\\', 'u', '\x7b'] ++ hex c.toNat ++ ['\x7d']

def escapeWithin (c : Char) : List Char :=
  if c = '"' then ['\\', '"']
  else if c = '\\' then ['\\', '\\']
  else if c = '\t' then ['\\', 't']
  else if c = '\n' then ['\\', 'n']
  else if c = '\r' then ['\\', 'r']
  else if c = '\x00' then ['\\', '0']
  else if isPrintable c then [c]
  else byCodePoint c

/-- A character that must not merge with the one before it. -/
def escape (c : Char) : List Char := if isExtender c then byCodePoint c else escapeWithin c

def quote (text : String) : String :=
  String.ofList (['"'] ++ text.toList.flatMap escape ++ ['"'])

def escapeByte (b : UInt8) : List Char :=
  ['\\', 'x'] ++ (if b.toNat < 16 then ['0'] else []) ++ (hex b.toNat).map Char.toUpper

/-- A character within a quoted sequence of bytes. -/
def escapeAmongBytes (starts : Bool) (c : Char) : List Char :=
  if c = '\'' then ['\\', '\''] else if starts then escape c else escapeWithin c

/-- The characters of a sequence of bytes in quotes, with the bytes of each
    fault one by one. Whether text starts here is the first argument. -/
def bytesBody (starts : Bool) : List UInt8 → List Char
  | [] => []
  | b :: rest =>
    let after := (Utf8.next b rest).2
    match (Utf8.next b rest).1 with
    | some c => escapeAmongBytes starts c ++ bytesBody false after
    | none =>
      ((b :: rest).take ((b :: rest).length - after.length)).flatMap escapeByte ++
        bytesBody true after
termination_by bytes => bytes.length
decreasing_by all_goals exact Nat.lt_succ_of_le (Utf8.length_next_le b rest)

/-- A sequence of bytes between quotes. -/
def quoteBytes (bytes : List UInt8) : String :=
  String.ofList (['"'] ++ bytesBody true bytes ++ ['"'])

end DocSync.Text.Quoted
