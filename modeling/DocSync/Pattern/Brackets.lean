import DocSync.Pattern.Symbol

/-! # Sets in brackets

  A set of characters is written between brackets, as characters and ranges of
  them, classes by their names, and sets in brackets again. A caret in front
  takes all other characters. Sets may be cut, taken from one another and
  compared by `&&`, `--` and `~~`, from left to right.

  The height of a set tells how deep its parts are nested.
-/

namespace DocSync.Pattern.Brackets

open Text (CharSet)

/-! ### Sets with their heights -/

/-- A set and how deep its parts are nested. -/
structure Part where
  set : CharSet
  height : Nat

/-- A part that is not nested. -/
def Part.leaf (s : CharSet) : Part := ⟨s, 0⟩

/-- How deep some parts are nested that stand next to each other. -/
def heightTogether : List Nat → Nat
  | [] => 0
  | [height] => height
  | heights => heights.foldl max 0 + 1

def Part.unions (parts : List Part) : Part :=
  ⟨.unions (parts.map Part.set), heightTogether (parts.map Part.height)⟩

/-! ### Meaning -/

/-- A set in which letters stand for either case if they have to. With `unicode`
    only the empty set allows that. -/
def folded? (flags : Flags) (s : CharSet) : Option CharSet :=
  if !flags.has .ignoreCase then some s
  else if !flags.has .unicode then some s.withBothCases
  else if s.isEmpty then some s
  else none

/-- The set between brackets, or the others. Without `unicode` it has to be in
    ASCII. -/
def closed? (flags : Flags) (isNegated : Bool) (s : CharSet) : Option CharSet := do
  let s ← folded? flags s
  let s := if isNegated then s.compl else s
  if flags.has .unicode || s.isAscii then return s else none

/-- A way to combine sets. -/
inductive Operation where
  | inter
  | diff
  | symmDiff
  deriving DecidableEq, Repr

def Operation.apply : Operation → CharSet → CharSet → CharSet
  | .inter => .inter
  | .diff => .diff
  | .symmDiff => .symmDiff

/-- What a pair of characters stands for between sets. -/
def Operation.read? : List Char → Option (Operation × List Char)
  | '&' :: '&' :: rest => some (.inter, rest)
  | '-' :: '-' :: rest => some (.diff, rest)
  | '~' :: '~' :: rest => some (.symmDiff, rest)
  | _ => none

/-- The set before the last operation, if there is one, combined with the set
    after it. -/
def combine? (flags : Flags) (left : Option (Part × Operation)) (right : Part) :
    Option Part :=
  match left with
  | none => some right
  | some (left, op) => do
    let set := op.apply (← folded? flags left.set) (← folded? flags right.set)
    return ⟨set, max left.height right.height + 1⟩

/-! ### Reading -/

/-- Reads the name of a class, between a colon that has been read and another
    one. A caret in front takes all other characters. -/
def class? (flags : Flags) (text : List Char) : Option (Option Part × List Char) :=
  let (isNegated, text) := match text with
    | '^' :: rest => (true, rest)
    | _ => (false, text)
  match CharSet.ofName? (String.ofList (text.takeWhile (· ≠ ':'))),
    text.dropWhile (· ≠ ':') with
  | some s, ':' :: ']' :: rest => some ((closed? flags isNegated s).map .leaf, rest)
  | _, _ => none

/-- A character that may stand in a set. Without `unicode` it has to be in ASCII. -/
def member? (flags : Flags) : Symbol → Option Char
  | .char c _ => if flags.has .unicode || c.toNat < 0x80 then some c else none
  | _ => none

def symbolSet? (flags : Flags) : Symbol → Option CharSet
  | .set s => some s
  | symbol => (member? flags symbol).map .single

/-- The text after the minus sign of a range. A minus sign makes no range in
    front of a closing bracket or of another minus sign. -/
def afterMinus? (flags : Flags) : List Char → Option (List Char)
  | '-' :: rest =>
    match flags.skip rest with
    | ']' :: _ => none
    | '-' :: _ => none
    | rest => some rest
  | _ => none

/-- Reads a symbol or a range. -/
def range? (flags : Flags) (text : List Char) : Option (Part × List Char) := do
  let (first, rest) ← Symbol.readWithin? flags text
  let rest := flags.skip rest
  match afterMinus? flags rest with
  | none => return (.leaf (← symbolSet? flags first), rest)
  | some rest =>
    let (last, rest) ← Symbol.readWithin? flags rest
    let (first, last) := (← member? flags first, ← member? flags last)
    if first ≤ last then return (.leaf (.range first last), rest) else none

/-- The minus signs at the start of a set, which stand for themselves. There are
    no more of them than so many. -/
def signs (flags : Flags) : Nat → List Char → List Part × List Char
  | 0, text => ([], text)
  | count + 1, text =>
    match flags.skip text with
    | '-' :: rest =>
      let (others, rest) := signs flags count rest
      (.leaf (.single '-') :: others, rest)
    | rest => ([], rest)

/-- What stands for itself at the start of a set: the minus signs, or else a
    closing bracket. -/
def leading (flags : Flags) (text : List Char) : List Part × List Char :=
  match signs flags text.length text with
  | ([], ']' :: rest) => ([.leaf (.single ']')], rest)
  | others => others

mutual

/-- Reads a set after its opening bracket, in so many steps at most. -/
def opened? (flags : Flags) : Nat → List Char → Option (Part × List Char)
  | 0, _ => none
  | steps + 1, text => do
    let (isNegated, text) := match flags.skip text with
      | '^' :: rest => (true, rest)
      | rest => (false, rest)
    let (parts, rest) := leading flags text
    let (part, rest) ← continued? flags none parts steps rest
    return (⟨← closed? flags isNegated part.set, part.height + 1⟩, rest)

/-- Reads the rest of a set, in so many steps at most. -/
def continued? (flags : Flags) (left : Option (Part × Operation)) (parts : List Part) :
    Nat → List Char → Option (Part × List Char)
  | 0, _ => none
  | steps + 1, text =>
    match flags.skip text with
    | [] => none
    | ']' :: rest => do return (← combine? flags left (.unions parts), rest)
    | '[' :: rest => do
      let named := match rest with
        | ':' :: rest => class? flags rest
        | _ => none
      match named with
      | some (part, rest) => continued? flags left (parts ++ [← part]) steps rest
      | none =>
        let (part, rest) ← opened? flags steps rest
        continued? flags left (parts ++ [part]) steps rest
    | text =>
      match Operation.read? text with
      | some (op, rest) => do
        continued? flags (some (← combine? flags left (.unions parts), op)) [] steps rest
      | none => do
        let (part, rest) ← range? flags text
        continued? flags left (parts ++ [part]) steps rest

end

/-- Reads a set after its opening bracket. -/
def read? (flags : Flags) (text : List Char) : Option (Part × List Char) :=
  opened? flags (2 * text.length + 2) text

end DocSync.Pattern.Brackets
