import DocSync.Toml.Scalar

/-! # Texts in quotes

  TOML has four kinds of texts in quotes: basic ones in double quotes, in which
  a backslash starts an escape, and literal ones in single quotes, in which
  nothing is special, each of them on one line or, with three quotes, on several.

  Each kind is read in two stages. The first finds the closing quotes, and
  refuses controls. The second, for basic texts, resolves the escapes.
-/

namespace DocSync.Toml.Quoted

/-- Tells whether a character may stand in a comment or a text: a tab, or
    anything that is no control of ASCII. -/
def isAllowed (c : Char) : Bool := c == '\t' || (0x20 ≤ c.toNat && c.toNat != 0x7F)

/-! ### Finding the end -/

/-- The characters of a text on one line, up to its closing quote. If `escapes`
    holds, a backslash takes the next character with it. -/
def lineBody (escapes : Bool) (quote : Char) : List Char → Option (List Char × List Char)
  | [] => none
  | [c] => if c = quote then some ([], []) else none
  | c :: d :: rest =>
    if c = quote then some ([], d :: rest)
    else if !isAllowed c then none
    else if escapes && c == '\\' then
      if isAllowed d then
        (lineBody escapes quote rest).map (fun (body, after) => (c :: d :: body, after))
      else none
    else (lineBody escapes quote (d :: rest)).map (fun (body, after) => (c :: body, after))

/-- Up to two quotes right after three closing ones belong to the text. -/
def extraQuotes (quote : Char) (text : List Char) : List Char × List Char :=
  let extra := (text.take 2).takeWhile (· == quote)
  (extra, text.drop extra.length)

/-- The characters of a text on several lines, up to its three closing quotes. -/
def blockBody (escapes : Bool) (quote : Char) : List Char → Option (List Char × List Char)
  | [] => none
  | c :: rest =>
    if c = quote ∧ rest.take 2 = [quote, quote] then some (extraQuotes quote (rest.drop 2))
    else if escapes && c == '\\' then
      match rest with
      | [] => none
      | d :: rest =>
        if d = '\r' ∧ rest.head? ≠ some '\n' then none
        else if d = '\r' ∨ d = '\n' ∨ isAllowed d then
          (blockBody escapes quote rest).map (fun (body, after) => (c :: d :: body, after))
        else none
    else if c = '\r' ∧ rest.head? ≠ some '\n' then none
    else if c = '\r' ∨ c = '\n' ∨ isAllowed c then
      (blockBody escapes quote rest).map (fun (body, after) => (c :: body, after))
    else none

/-! ### Resolving escapes -/

/-- The character that so many hexadecimal digits name, if it is one. -/
def codePoint? (count : Nat) (text : List Char) : Option (Char × List Char) :=
  let row := text.take count
  let n := Scalar.ofDigits 16 row
  if row.length = count ∧ row.all Scalar.isHexDigit ∧ n.isValidChar then
    some (Char.ofNat n, text.drop count)
  else none

/-- The character that an escape stands for, after its backslash. -/
def escape? : List Char → Option (Char × List Char)
  | 'b' :: rest => some ('\x08', rest)
  | 't' :: rest => some ('\t', rest)
  | 'n' :: rest => some ('\n', rest)
  | 'f' :: rest => some ('\x0c', rest)
  | 'r' :: rest => some ('\r', rest)
  | 'e' :: rest => some ('\x1b', rest)
  | '"' :: rest => some ('"', rest)
  | '\\' :: rest => some ('\\', rest)
  | 'x' :: rest => codePoint? 2 rest
  | 'u' :: rest => codePoint? 4 rest
  | 'U' :: rest => codePoint? 8 rest
  | _ => none

def isSpace (c : Char) : Bool := c == ' ' || c == '\t'

/-- The text after a line break. -/
def afterBreak? : List Char → Option (List Char)
  | '\n' :: rest => some rest
  | '\r' :: '\n' :: rest => some rest
  | _ => none

/-- The text after a backslash that joins lines: a break follows it on its
    line, and white space goes with it. -/
def afterJoin? (text : List Char) : Option (List Char) :=
  (afterBreak? (text.dropWhile isSpace)).map
    (·.dropWhile (fun c => isSpace c || c == '\n' || c == '\r'))

/-- The text with its escapes resolved. Line breaks stay as they are written.
    The first argument bounds the number of characters. -/
def resolve (block : Bool) : Nat → List Char → Option (List Char)
  | 0, text => if text.isEmpty then some [] else none
  | _ + 1, [] => some []
  | fuel + 1, '\\' :: rest =>
    match (if block then afterJoin? rest else none) with
    | some rest => resolve block fuel rest
    | none => do
      let (c, rest) ← escape? rest
      return c :: (← resolve block fuel rest)
  | fuel + 1, c :: rest => do return c :: (← resolve block fuel rest)

/-! ### The four kinds -/

/-- A text on one line, after its opening quote. -/
def line (quote : Char) (text : List Char) : Option (String × List Char) := do
  let (body, rest) ← lineBody (quote == '"') quote text
  if quote = '"' then return (String.ofList (← resolve false body.length body), rest)
  else return (String.ofList body, rest)

/-- A text on several lines, after its opening quotes. A break right at the
    start does not count. -/
def block (quote : Char) (text : List Char) : Option (String × List Char) := do
  let (body, rest) ← blockBody (quote == '"') quote ((afterBreak? text).getD text)
  if quote = '"' then return (String.ofList (← resolve true body.length body), rest)
  else return (String.ofList body, rest)

end DocSync.Toml.Quoted
