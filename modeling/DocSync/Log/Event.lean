import DocSync.Log.Level
import DocSync.Text.Quoted

/-! # Events and their text

  An event has a severity, the part of the program it comes from, named fields
  and the spans it happens in, outermost first. What it says is the field named
  `message`; an event need not have one.

  `Value.shown` is the text of a value by itself, `Value.logged` the text in a
  line of the log, where plain texts are quoted.
-/

namespace DocSync.Log

/-! ### Values -/

inductive Value where
  /-- A plain text. -/
  | text (value : String)
  /-- A text that was put together for display. -/
  | formatted (value : String)
  /-- A text that is shown in quotes. -/
  | quoted (value : String)
  | integer (value : Int)
  | flag (value : Bool)
  /-- A count that may be missing. -/
  | count (value : Option Nat)
  deriving DecidableEq, Repr

namespace Value

/-- The text of a value by itself. -/
def shown : Value → String
  | .text value => value
  | .formatted value => value
  | .quoted value => Text.Quoted.quote value
  | .integer value => toString value
  | .flag true => "true"
  | .flag false => "false"
  | .count (some n) => "Some(" ++ toString n ++ ")"
  | .count none => "None"

/-- The text of a value in a line of the log. -/
def logged : Value → String
  | .text value => Text.Quoted.quote value
  | other => other.shown

end Value

/-! ### Events -/

/-- A named value. -/
abbrev Field := String × Value

/-- A stretch of work that events happen in. -/
structure Span where
  name : String
  fields : List Field
  deriving DecidableEq, Repr

/-- Something that happened. -/
structure Event where
  severity : Severity
  /-- The part of the program that it comes from. -/
  target : String
  fields : List Field
  spans : List Span
  deriving DecidableEq, Repr

/-- The name of the field that says what happened. -/
def messageField : String := "message"

namespace Event

/-- What an event says. If several fields are named so, the last one counts. -/
def message? (e : Event) : Option Value := e.fields.reverse.lookup messageField

/-- The fields that only add detail. -/
def details (e : Event) : List Field := e.fields.filter (fun field => field.1 ≠ messageField)

end Event

/-! ### Lines of the log -/

def fieldText (field : Field) : String :=
  if field.1 = messageField then field.2.shown else field.1 ++ "=" ++ field.2.logged

def Span.text (s : Span) : String :=
  if s.fields.isEmpty then s.name
  else s.name ++ "\x7b" ++ " ".intercalate (s.fields.map fieldText) ++ "\x7d"

namespace Event

def spanText (e : Event) : String := ":".intercalate (e.spans.map Span.text)

def text (e : Event) : String := " ".intercalate (e.fields.map fieldText)

/-- The line of an event that happens at a time. Severities are aligned to the right. -/
def line (e : Event) (time : String) : String :=
  let indent := String.ofList (List.replicate (5 - e.severity.name.length) ' ')
  let spans := if e.spans.isEmpty then "" else e.spanText ++ ": "
  time ++ " " ++ indent ++ e.severity.name ++ " " ++ spans ++ e.target ++ ": " ++ e.text ++ "\n"

end Event

end DocSync.Log
