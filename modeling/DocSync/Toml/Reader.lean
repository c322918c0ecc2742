import DocSync.Toml.Quoted
import DocSync.Toml.Tree

/-! # Reading TOML

  Reads documents of TOML 1.1. A document is a sequence of lines, each with a
  header, a member or neither. Lists and tables within values may nest at most
  `maxDepth` deep, and a name may have no more parts than that.
-/

namespace DocSync.Toml

/-- Takes a value from the front of a text. -/
abbrev Reader (α : Type) := List Char → Option (α × List Char)

/-- How deep lists and tables within values may nest, and a name may reach. -/
def maxDepth : Nat := 80

/-! ### Blank stretches -/

/-- The text after spaces and tabs. -/
def skipSpace (text : List Char) : List Char := text.dropWhile Quoted.isSpace

/-- The text after blank lines, comments and white space. -/
def skipBlank (inComment : Bool) : List Char → Option (List Char)
  | [] => some []
  | '\r' :: '\n' :: rest => skipBlank false rest
  | c :: rest =>
    if c = '\n' then skipBlank false rest
    else if inComment then (if Quoted.isAllowed c then skipBlank true rest else none)
    else if Quoted.isSpace c then skipBlank false rest
    else if c = '#' then skipBlank true rest
    else some (c :: rest)

/-- Tells whether a text is at the end of its line, but for white space and a comment. -/
def atLineEnd (text : List Char) : Bool :=
  match skipSpace text with
  | [] => true
  | '\r' :: '\n' :: _ => true
  | c :: _ => c == '\n' || c == '#'

/-! ### Names -/

/-- Tells whether a character may belong to a name without quotes. -/
def isNameChar (c : Char) : Bool := c.isAlphanum || c == '_' || c == '-'

def name : Reader String
  | '"' :: rest => Quoted.line '"' rest
  | '\'' :: rest => Quoted.line '\'' rest
  | text =>
    let row := text.takeWhile isNameChar
    if row.isEmpty then none else some (String.ofList row, text.dropWhile isNameChar)

/-- At most so many names with points between them. -/
def pointed : Nat → Reader (List String)
  | 0, _ => none
  | fuel + 1, text => do
    let (first, rest) ← name text
    match skipSpace rest with
    | '.' :: rest =>
      let (others, rest) ← pointed fuel (skipSpace rest)
      return (first :: others, rest)
    | rest => return ([first], rest)

/-- A name that may have points. -/
def names : Reader (List String) := pointed maxDepth

/-- A name, an equals sign and a value. -/
def member (value : Reader Toml) : Reader (List String × Toml) := fun text => do
  let (path, rest) ← names text
  match rest with
  | '=' :: rest =>
    let (v, rest) ← value (skipSpace rest)
    return ((path, v), rest)
  | _ => none

/-! ### Values -/

/-- Elements with commas between them, up to a closing bracket. There may be a
    comma after the last. The first argument bounds their number. -/
def elements {α : Type} (element : Reader α) (close : Char) : Nat → Reader (List α)
  | 0, _ => none
  | fuel + 1, text => do
    match ← skipBlank false text with
    | [] => none
    | c :: rest =>
      if c = close then return ([], rest)
      let (first, rest) ← element (c :: rest)
      match ← skipBlank false rest with
      | ',' :: rest =>
        let (others, rest) ← elements element close fuel rest
        return (first :: others, rest)
      | c :: rest => if c = close then some ([first], rest) else none
      | [] => none

/-- The table of members written in braces. -/
def inlineTable (members : List (List String × Toml)) : Option Toml := do
  let grown ← members.foldlM (fun table (path, v) => Node.assign path v .header table) []
  return (Node.table .header grown).finish

/-- A value whose elements, if it may have any, are read by `inner`. -/
def shallow (inner : Option (Reader Toml)) : Reader Toml
  | '"' :: '"' :: '"' :: rest =>
    (Quoted.block '"' rest).map (fun (text, rest) => (.scalar (.text text), rest))
  | '\'' :: '\'' :: '\'' :: rest =>
    (Quoted.block '\'' rest).map (fun (text, rest) => (.scalar (.text text), rest))
  | '"' :: rest => (Quoted.line '"' rest).map (fun (text, rest) => (.scalar (.text text), rest))
  | '\'' :: rest => (Quoted.line '\'' rest).map (fun (text, rest) => (.scalar (.text text), rest))
  | '[' :: rest => do
    let (items, after) ← elements (← inner) ']' (rest.length + 1) rest
    return (.array items, after)
  | '{' :: rest => do
    let (members, after) ← elements (member (← inner)) '}' (rest.length + 1) rest
    return (← inlineTable members, after)
  | text => (Scalar.bare text).map (fun (s, rest) => (.scalar s, rest))

/-- A value that nests at most so deep. -/
def value : Nat → Reader Toml
  | 0 => shallow none
  | depth + 1 => shallow (some (value depth))

/-! ### Documents -/

/-- A header: its path, and whether it is in double brackets. -/
def header : Reader (List String × Bool)
  | '[' :: '[' :: rest => do
    let (path, rest) ← names (skipSpace rest)
    match rest with
    | ']' :: ']' :: rest => return ((path, true), rest)
    | _ => none
  | '[' :: rest => do
    let (path, rest) ← names (skipSpace rest)
    match rest with
    | ']' :: rest => return ((path, false), rest)
    | _ => none
  | _ => none

/-- A document as far as it is read. -/
structure Progress where
  members : Node.Members
  /-- The path of the last header. -/
  current : List String

/-- Starts the table of a header. -/
def Progress.enter (p : Progress) (path : List String) (isElement : Bool) : Option Progress := do
  let last ← path.getLast?
  let change := if isElement then Node.addTable last else Node.openTable last
  return ⟨← Node.descend .passing change path.dropLast .header p.members, path⟩

/-- Adds a member to the current table. -/
def Progress.assign (p : Progress) (path : List String) (v : Toml) : Option Progress := do
  let members ← Node.descend .passing (Node.assign path v) p.current .header p.members
  return { p with members := members }

/-- Reads the lines that are left. The first argument bounds their number. -/
def lines : Nat → Progress → List Char → Option Progress
  | 0, _, _ => none
  | fuel + 1, p, text => do
    match ← skipBlank false text with
    | [] => return p
    | '[' :: rest =>
      let ((path, isElement), rest) ← header ('[' :: rest)
      let p ← p.enter path isElement
      if atLineEnd rest then lines fuel p rest else none
    | text =>
      let ((path, v), rest) ← member (value maxDepth) text
      let p ← p.assign path v
      if atLineEnd rest then lines fuel p rest else none

/-- The members of the table that a document spells. A mark of the byte order
    may stand in front. -/
def read? (text : String) : Option (List (String × Toml)) := do
  let chars := match text.toList with
    | '\uFEFF' :: rest => rest
    | chars => chars
  let p ← lines (chars.length + 1) ⟨[], []⟩ chars
  return Node.finishMembers p.members

end DocSync.Toml
