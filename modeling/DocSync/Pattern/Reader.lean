import DocSync.Pattern.Brackets
import DocSync.Text.Alphanumeric

/-! # Reading patterns

  A pattern is written as alternatives with bars between them, each a row of
  symbols, sets in brackets and groups in parentheses, every one of which may be
  followed by signs of repetition. A group may have a name or switches for
  flags; switches alone hold up to the end of the group that they are in.
  Counted repetitions are not known, and neither are groups that only look
  around.

  The height of a pattern tells how deep its parts are nested, and is limited.
-/

namespace DocSync.Pattern

/-! ### Parts -/

/-- A part of a written pattern: what it stands for, how deep it is nested, and
    whether it may be repeated. -/
structure Part where
  pattern : Pattern
  height : Nat
  isRepeatable : Bool

/-- What holds at a place of a written pattern: the flags that are on, and the
    names that groups have so far. -/
structure Scope where
  flags : Flags
  names : List String

namespace Part

/-- The part that is made of parts in a row. -/
def row (parts : List Part) : Part :=
  ⟨inRow (parts.map Part.pattern), Brackets.heightTogether (parts.map Part.height), true⟩

/-- The part that is made of alternatives. -/
def alternatives (parts : List Part) : Part :=
  ⟨anyOf (parts.map Part.pattern), Brackets.heightTogether (parts.map Part.height), true⟩

/-- A part between parentheses. -/
def grouped (part : Part) : Part := { part with height := part.height + 1 }

/-- A part that is repeated as a sign says. -/
def repeated (part : Part) (sign : Char) (isGreedy : Bool) : Part :=
  let pattern := match sign with
    | '?' => .optional part.pattern isGreedy
    | '+' => .many part.pattern isGreedy
    | _ => .optional (.many part.pattern isGreedy) isGreedy
  ⟨pattern, part.height + 1, true⟩

end Part

/-! ### Groups -/

/-- What a group is opened by: switches alone, or switches for what is in it. -/
inductive Opening where
  | switches (flags : Flags)
  | group (inner : Scope)

/-- Tells whether a character may stand in the name of a group. -/
def isNameChar (isFirst : Bool) (c : Char) : Bool :=
  c == '_' || (if isFirst then Text.isAlphabetic c
    else c == '.' || c == '[' || c == ']' || Text.isAlphanumeric c)

/-- Reads the name of a group and the bracket after it. A name is not empty and
    not given twice. -/
def name? (scope : Scope) (text : List Char) : Option (Opening × List Char) :=
  let name := text.takeWhile (· ≠ '>')
  let word := String.ofList name
  match name, text.dropWhile (· ≠ '>') with
  | first :: others, '>' :: rest =>
    if isNameChar true first && others.all (isNameChar false) && !scope.names.contains word then
      some (.group { scope with names := word :: scope.names }, rest)
    else none
  | _, _ => none

/-- Reads switches after a question mark. -/
def switches? (scope : Scope) (text : List Char) : Option (Opening × List Char) := do
  let (switches, mark, rest) ← Flags.readSwitches [] true false text
  let flags := scope.flags.switchAll switches
  if mark = ':' then return (.group { scope with flags := flags }, rest)
  else if switches.isEmpty then none
  else return (.switches flags, rest)

/-- Reads what comes after an opening parenthesis and belongs to it. -/
def opening? (scope : Scope) (text : List Char) : Option (Opening × List Char) :=
  match scope.flags.skip text with
  | '?' :: '=' :: _ => none
  | '?' :: '!' :: _ => none
  | '?' :: '<' :: '=' :: _ => none
  | '?' :: '<' :: '!' :: _ => none
  | '?' :: 'P' :: '<' :: rest => name? scope rest
  | '?' :: '<' :: rest => name? scope rest
  | '?' :: rest => switches? scope rest
  | rest => some (.group scope, rest)

/-! ### Rows -/

/-- What has been read of a group: alternatives, and the row of parts of the
    last one. -/
structure Progress where
  scope : Scope
  alternatives : List Part
  row : List Part

namespace Progress

/-- The progress at the start of a group. -/
def start (scope : Scope) : Progress := ⟨scope, [], []⟩

/-- The progress after another part. -/
def push (p : Progress) (part : Part) : Progress := { p with row := p.row ++ [part] }

/-- The progress after a bar. -/
def turn (p : Progress) : Progress :=
  { p with alternatives := p.alternatives ++ [.row p.row], row := [] }

/-- All that has been read. -/
def part (p : Progress) : Part := .alternatives p.turn.alternatives

/-- The progress after a sign of repetition, and the text after it. Another
    question mark makes the repetition greedy or not greedy. -/
def repeat? (p : Progress) (sign : Char) (text : List Char) : Option (Progress × List Char) :=
  let (isPlain, rest) := match text with
    | '?' :: rest => (false, rest)
    | _ => (true, text)
  match p.row.getLast? with
  | none => none
  | some last =>
    if last.isRepeatable then
      let part := last.repeated sign (isPlain != p.scope.flags.has .swapGreed)
      some ({ p with row := p.row.dropLast ++ [part] }, rest)
    else none

/-- The progress after a symbol or a set in brackets, and the text after it. -/
def symbol? (p : Progress) : List Char → Option (Progress × List Char)
  | '[' :: rest => do
    let (set, rest) ← Brackets.read? p.scope.flags rest
    return (p.push ⟨.one set.set, set.height, true⟩, rest)
  | text => do
    let (symbol, rest) ← Symbol.read? p.scope.flags text
    return (p.push ⟨← symbol.pattern? p.scope.flags, 0, true⟩, rest)

end Progress

/-- Reads up to the end of a group or of the text, in so many steps at most. -/
def readGroup? (p : Progress) : Nat → List Char → Option (Progress × List Char)
  | 0, _ => none
  | steps + 1, text =>
    match p.scope.flags.skip text with
    | [] => some (p, [])
    | c :: rest =>
      if c = ')' then some (p, c :: rest)
      else if c = '|' then readGroup? p.turn steps rest
      else if c = '{' then none
      else if c = '?' ∨ c = '*' ∨ c = '+' then do
        let (p, rest) ← p.repeat? c rest
        readGroup? p steps rest
      else if c = '(' then do
        match ← opening? p.scope rest with
        | (.switches flags, rest) =>
          let p := { p with scope := { p.scope with flags := flags } }
          readGroup? (p.push ⟨.empty, 0, false⟩) steps rest
        | (.group inner, rest) =>
          match ← readGroup? (.start inner) steps rest with
          | (inner, ')' :: rest) =>
            let p := { p with scope := { p.scope with names := inner.scope.names } }
            readGroup? (p.push inner.part.grouped) steps rest
          | _ => none
      else do
        let (p, rest) ← p.symbol? (c :: rest)
        readGroup? p steps rest

/-- How deep the parts of a pattern may be nested. -/
def maxHeight : Nat := 250

def read? (text : String) : Option Pattern := do
  let scope := ⟨.initial, []⟩
  match ← readGroup? (.start scope) (text.length + 1) text.toList with
  | (p, []) => if p.part.height ≤ maxHeight then return p.part.pattern else none
  | _ => none

end DocSync.Pattern
