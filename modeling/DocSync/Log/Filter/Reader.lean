import DocSync.Decimal
import DocSync.Environment
import DocSync.Log.Filter
import DocSync.Pattern.Reader
import DocSync.Text.Alphanumeric
import DocSync.Text.Blank
import DocSync.Text.Split
import DocSync.Word

/-! # Reading filters

  A filter is written as directives with commas between them. A directive is a
  level, or a target, a span in brackets, an equals sign and a level, of which
  only the brackets or the target have to be there. Within its brackets a span
  may ask for a field in braces.

  A directive is read character by character, without the white space around
  it; its parts are then cut out by their positions, which are counted in
  bytes. They are cut from the directive as it stands, so that white space in
  front spoils it. A position may then even be within a character, which is
  worse than a directive that is not understood.
-/

namespace DocSync.Log

/-- Why a text spells no filter. -/
inductive Fault where
  /-- It is not understood. -/
  | unreadable
  /-- A part of it would begin or end within a character. -/
  | splitsCharacter
  deriving DecidableEq, Repr

/-! ### Levels -/

/-- A number of machine size, maybe with a plus sign. -/
def machineNumber? (text : List Char) : Option Nat :=
  let row := match text with
    | '+' :: rest => rest
    | rest => rest
  if row.isEmpty || !row.all Char.isDigit then none
  else
    let n := Decimal.ofDigits row
    if Word.nat64.admits n then some n else none

/-- The limit that a text names, by number or by word. -/
def Limit.read? (text : List Char) : Option Limit :=
  match machineNumber? text with
  | some 0 => some none
  | some 1 => some (some .error)
  | some 2 => some (some .warn)
  | some 3 => some (some .info)
  | some 4 => some (some .debug)
  | some 5 => some (some .trace)
  | some _ => none
  | none =>
    match String.ofList (Text.lowerAscii text) with
    | "off" => some none
    | "error" => some (some .error)
    | "warn" => some (some .warn)
    | "info" => some (some .info)
    | "debug" => some (some .debug)
    | "trace" => some (some .trace)
    | _ => none

/-! ### Fields -/

/-- Tells whether a text is a number, with or without sign, fraction and power
    of ten, or a truth value. -/
def isPlainValue (text : List Char) : Bool :=
  let unsigned := match text with
    | '-' :: rest => rest
    | '+' :: rest => rest
    | rest => rest
  let mantissa := unsigned.takeWhile (fun c => c != 'e' && c != 'E')
  let power := unsigned.dropWhile (fun c => c != 'e' && c != 'E')
  let powerDigits := match power.drop 1 with
    | '-' :: rest => rest
    | '+' :: rest => rest
    | rest => rest
  let isNumber := (mantissa.any Char.isDigit) && mantissa.all (fun c => c.isDigit || c == '.') &&
    mantissa.count '.' ≤ 1 &&
    (power.isEmpty || (!powerDigits.isEmpty && powerDigits.all Char.isDigit))
  let word := String.ofList (Text.lowerAscii unsigned)
  isNumber || word == "inf" || word == "infinity" || word == "nan" ||
    text == "true".toList || text == "false".toList

/-- The value that a text asks for, if it can be understood. -/
def Wanted.read? (text : List Char) : Option Wanted :=
  if isPlainValue text then some .other
  else
    let written := String.ofList text
    (Pattern.read? written).map (.pattern written)

/-- A field, and after an equals sign the value that it is asked to have. -/
def Ask.read? (text : List Char) : Option Ask :=
  match Text.split '=' text with
  | name :: value :: _ => (Wanted.read? value).map (fun wanted => ⟨String.ofList name, some wanted⟩)
  | _ => some ⟨String.ofList text, none⟩

/-! ### Directives -/

/-- What a directive is being read as, and where the part began. -/
inductive Reading where
  | start
  | word (start : Nat)
  | span (start : Nat)
  | field (start : Nat)
  | fieldsEnd
  | spanEnd
  | level (start : Nat)
  deriving DecidableEq, Repr

namespace Directive

/-- The text after so many bytes, and the text in front of it. -/
def splitAt? : Nat → List Char → Option (List Char × List Char)
  | 0, rest => some ([], rest)
  | _ + 1, [] => none
  | n + 1, c :: rest =>
    if c.utf8Size ≤ n + 1 then
      (splitAt? (n + 1 - c.utf8Size) rest).map (fun (front, rest) => (c :: front, rest))
    else none

/-- The part of a text from one position on. -/
def cutFrom (text : List Char) (start : Nat) : Except Fault (List Char) :=
  match splitAt? start text with
  | some (_, rest) => .ok rest
  | none => .error .splitsCharacter

/-- The part of a text between two positions. -/
def cut (text : List Char) (start stop : Nat) : Except Fault (List Char) := do
  match splitAt? (stop - start) (← cutFrom text start) with
  | some (part, _) => .ok part
  | none => .error .splitsCharacter

/-- What is understood, if anything. -/
def understood {α : Type} : Option α → Except Fault α
  | some value => .ok value
  | none => .error .unreadable

/-- A directive of which nothing is known. -/
def unread : Directive := ⟨none, none, [], some .trace⟩

/-- Reads one character, at a position. -/
def advance (whole : List Char) (i : Nat) (c : Char) :
    Reading × Directive → Except Fault (Reading × Directive)
  | (.start, d) =>
    if c = '[' then .ok (.span (i + 1), d)
    else if c = '-' ∨ c = ':' ∨ c = '_' ∨ Text.isAlphanumeric c then .ok (.word i, d)
    else .error .unreadable
  | (.word start, d) =>
    if c = '=' then
      return (.level (i + 1), { d with target := some (String.ofList (← cut whole start i)) })
    else if c = '[' then
      return (.span (i + 1), { d with target := some (String.ofList (← cut whole start i)) })
    else .ok (.word start, d)
  | (.span start, d) =>
    if c = ']' then
      return (.spanEnd, { d with span := some (String.ofList (← cut whole start i)) })
    else if c = '{' then do
      let name ← cut whole start i
      return (.field (i + 1),
        { d with span := if name.isEmpty then none else some (String.ofList name) })
    else .ok (.span start, d)
  | (.field start, d) =>
    if c = '}' then do
      let text ← cut whole start i
      let ask ← understood (if text.isEmpty then none else Ask.read? text)
      return (.fieldsEnd, { d with asks := d.asks ++ [ask] })
    else .ok (.field start, d)
  | (.fieldsEnd, d) => if c = ']' then .ok (.spanEnd, d) else .error .unreadable
  | (.spanEnd, d) => if c = '=' then .ok (.level (i + 1), d) else .error .unreadable
  | (.level start, d) => .ok (.level start, d)

/-- Reads characters, the first of which is at a position. -/
def advanceAll (whole : List Char) (i : Nat) (state : Reading × Directive) :
    List Char → Except Fault (Reading × Directive)
  | [] => .ok state
  | c :: rest => do advanceAll whole (i + c.utf8Size) (← advance whole i c state) rest

/-- What has been read once the end is reached. A word alone is a level if it
    names one, and otherwise a target without a limit. -/
def finish (whole : List Char) : Reading × Directive → Except Fault Directive
  -- The parts are cut up to the end of the text as it stands, blanks included.
  | (.word start, d) => do
    let text ← cutFrom whole start
    match Limit.read? text with
    | some limit => return { d with limit := limit, target := none }
    | none => return { d with limit := some .trace, target := some (String.ofList text) }
  | (.level start, d) => do
    let text ← cutFrom whole start
    if text.isEmpty then return { d with limit := some .trace }
    else return { d with limit := ← understood (Limit.read? text) }
  | (.spanEnd, d) => .ok d
  | _ => .error .unreadable

def read (text : List Char) : Except Fault Directive := do
  finish text (← advanceAll text 0 (.start, unread) (Text.trim text))

end Directive

/-! ### Filters -/

namespace Filter

/-- The filter that a text spells. One without directives lets through errors
    only. -/
def read (text : String) : Except Fault Filter := do
  let parts := (Text.split ',' text.toList).filter (!·.isEmpty)
  let directives ← parts.mapM Directive.read
  return if directives.isEmpty then upTo .error else ⟨directives⟩

/-- The variable that a filter is taken from. -/
def variableName : String := "RUST_LOG"

/-- The filter that the environment asks for, or else that of a level. There is
    none if what it asks for would split a character. -/
def ofEnvironment? (env : Environment) (level : Level) : Option Filter :=
  match (env.get? variableName).bind Text.Utf8.decode? with
  | none => some (upTo level.severity)
  | some text =>
    match read text with
    | .ok f => some f
    | .error .unreadable => some (upTo level.severity)
    | .error .splitsCharacter => none

end Filter

end DocSync.Log
