import DocSync.Decimal
import DocSync.Text.Blank
import DocSync.Text.Utf8

/-! # Frames around messages

  On the wire every message is the body of a frame. Before the body come header
  lines, each a name and a value with a colon between them, and then an empty
  line. The header `Content-Length` gives the number of bytes in the body. Names
  of headers are read in any case of letters.
-/

namespace DocSync.Rpc.Frame

/-- The name of the header that gives the size of the body. -/
def lengthName : String := "Content-Length"

def lineEnd : String := "\r\n"

/-- The name and the value of a header line, without white space around them. -/
def header? (line : List Char) : Option (List Char × List Char) :=
  match line.span (· ≠ ':') with
  | (name, _ :: value) => some (Text.lowerAscii (Text.trim name), Text.trim value)
  | (_, []) => none

/-- The number that the value of a header spells in digits. -/
def count? (value : List Char) : Option Nat :=
  if value ≠ [] ∧ value.all Char.isDigit then some (Decimal.ofDigits value) else none

/-- The size of the body that some header lines announce. -/
def bodySize? (lines : List String) : Option Nat := do
  count? (← (lines.filterMap (fun line => header? line.toList)).lookup
    (Text.lowerAscii lengthName.toList))

/-- The header lines of a body, with the empty line after them. -/
def headers (size : Nat) : String := lengthName ++ ": " ++ toString size ++ lineEnd ++ lineEnd

/-- The frame of a body. -/
def wrap (body : String) : String := headers (Text.Utf8.encode body).length ++ body

end DocSync.Rpc.Frame
