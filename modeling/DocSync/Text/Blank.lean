/-! # White space and letter case of names

  Names such as those of log levels are read with white space at either end
  left out and with ASCII letters in lower case. White space is the Unicode
  property `White_Space`; letters beyond ASCII are left as they are.
-/

namespace DocSync.Text

/-- The characters with the Unicode property `White_Space`. -/
def isBlank (c : Char) : Bool :=
  let n := c.toNat
  (9 ≤ n && n ≤ 13) || n == 0x20 || n == 0x85 || n == 0xA0 || n == 0x1680 ||
    (0x2000 ≤ n && n ≤ 0x200A) || n == 0x2028 || n == 0x2029 || n == 0x202F ||
    n == 0x205F || n == 0x3000

/-- The text without its leading white space. -/
def trimLeft (text : List Char) : List Char := text.dropWhile isBlank

/-- The text without its trailing white space. -/
def trimRight (text : List Char) : List Char := (text.reverse.dropWhile isBlank).reverse

/-- The text without white space at either end. -/
def trim (text : List Char) : List Char := trimRight (trimLeft text)

/-- The text with its ASCII letters in lower case. -/
def lowerAscii (text : List Char) : List Char := text.map Char.toLower

end DocSync.Text
