import DocSync.Text.Split

/-! # Lines of a text

  A text is cut into lines at line feeds. The pair carriage return, line feed
  counts as one break; a carriage return anywhere else belongs to its line.

  `splitLines_ne_nil` says that even the empty text has a line, and
  `joinLines_splitLines` that joining the lines of a text gives the text with
  every break written as a single line feed.
-/

namespace DocSync.Text

/-- Every carriage return that stands right before a line feed is dropped. -/
def normalizeBreaks : List Char → List Char
  | [] => []
  | '\r' :: '\n' :: rest => '\n' :: normalizeBreaks rest
  | c :: rest => c :: normalizeBreaks rest

/-- The lines of a text, without their breaks. -/
def splitLines (text : List Char) : List (List Char) := split '\n' (normalizeBreaks text)

/-- The text that has the given lines, with a line feed between each two. -/
def joinLines (lines : List (List Char)) : List Char := join '\n' lines

theorem splitLines_ne_nil (text : List Char) : splitLines text ≠ [] := split_ne_nil _ _

theorem joinLines_splitLines (text : List Char) :
    joinLines (splitLines text) = normalizeBreaks text := join_split _ _

end DocSync.Text
