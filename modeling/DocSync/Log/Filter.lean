import DocSync.Log.Event
import DocSync.Pattern

/-! # Filters of the log

  A filter is a list of directives. A directive names a target, a span, a field
  of a span, or several of these, and a limit: the least grave severity that it
  lets through, or none at all.

  * A directive without a span and a field value is *static*. Of the static
    directives that concern an event, the most specific one decides: the one
    with the longest target, and among those one that asks for a field.
  * A directive with a span or a field is *dynamic*. It lets through what
    happens within the spans that it matches, whatever the static ones say. A
    later directive replaces one that is about the same spans.

  A span is shown with its events if a dynamic directive concerns it, or if a
  static one lets spans through, which have the severity `info`.
-/

namespace DocSync.Log

/-- The least grave severity that is let through; `none` lets through nothing. -/
abbrev Limit := Option Severity

def Limit.admits (limit : Limit) (s : Severity) : Bool := limit.any (fun l => s.detail ≤ l.detail)

/-- Orders limits by how much they let through. -/
def Limit.detail (limit : Limit) : Nat := (limit.map Severity.detail).getD 0

/-! ### Directives -/

/-- The value that a field is asked to have. -/
inductive Wanted where
  /-- A number or truth value, which no text is. -/
  | other
  /-- A text that ends with what a pattern describes, with the pattern as it is
      written. -/
  | pattern (written : String) (p : Pattern)
  deriving DecidableEq, Repr

/-- A field that a span is asked to have. -/
structure Ask where
  field : String
  value : Option Wanted
  deriving DecidableEq, Repr

/-- Tells whether a span has the value that is asked for. -/
def Ask.isMet (ask : Ask) (s : Span) : Bool :=
  match ask.value with
  | none => true
  | some .other => false
  | some (.pattern _ p) => s.fields.any (fun (name, value) =>
      name == ask.field && p.isAtEnd value.shown.toList)

/-- A rule of a filter. -/
structure Directive where
  target : Option String
  span : Option String
  asks : List Ask
  limit : Limit
  deriving DecidableEq, Repr

namespace Directive

/-- Tells whether a directive is about spans. -/
def isDynamic (d : Directive) : Bool := d.span.isSome || !d.asks.isEmpty

/-- Tells whether a directive decides without a look at spans. -/
def isStatic (d : Directive) : Bool := d.span.isNone && d.asks.all (·.value.isNone)

def concernsTarget (d : Directive) (target : String) : Bool :=
  d.target.all (fun t => t.toList.isPrefixOf target.toList)

/-- Tells whether a directive is about an event, if it is static. -/
def concernsEvent (d : Directive) (e : Event) : Bool :=
  d.concernsTarget e.target && d.asks.all (fun ask => e.fields.any (·.1 == ask.field))

/-- Tells whether a directive is about a span, if it is dynamic. -/
def concernsSpan (d : Directive) (target : String) (s : Span) : Bool :=
  d.concernsTarget target && d.span.all (· == s.name) &&
    d.asks.all (fun ask => s.fields.any (·.1 == ask.field))

/-- Tells whether two directives apply in the same cases as they are written. -/
def isAlike (d other : Directive) : Bool :=
  d.target == other.target && d.span == other.span && d.asks == other.asks

/-- The directives without those that a later one replaces. -/
def latest : List Directive → List Directive
  | [] => []
  | d :: rest => if rest.any d.isAlike then latest rest else d :: latest rest

/-- How specific a directive is, as numbers to compare one after another. -/
def weight (d : Directive) : Nat × Nat :=
  ((d.target.map (fun t => t.utf8ByteSize + 1)).getD 0, d.asks.length)

/-- Tells whether a directive is less specific than another. -/
def isVaguer (d other : Directive) : Bool :=
  d.weight.1 < other.weight.1 ||
    (d.weight.1 == other.weight.1 && (d.weight.2 < other.weight.2 ||
      (d.weight.2 == other.weight.2 &&
        (d.asks.map Ask.field) < (other.asks.map Ask.field))))

/-- The most specific of some directives; of equal ones the last. -/
def mostSpecific? (ds : List Directive) : Option Directive :=
  ds.foldl (fun best d =>
    match best with
    | none => some d
    | some b => if d.isVaguer b then some b else some d) none

end Directive

/-! ### Filters -/

/-- The rules that decide what is logged. -/
structure Filter where
  directives : List Directive
  deriving DecidableEq, Repr

namespace Filter

/-- The filter that lets everything down to a severity through. -/
def upTo (s : Severity) : Filter := ⟨[⟨none, none, [], some s⟩]⟩

/-- The static directives. Those that are dynamic as well come last. -/
def statics (f : Filter) : List Directive :=
  f.directives.filter (fun d => d.isStatic && !d.isDynamic) ++
    f.directives.filter (fun d => d.isStatic && d.isDynamic)

def dynamics (f : Filter) : List Directive :=
  Directive.latest (f.directives.filter Directive.isDynamic)

/-- Tells whether the static directives let an event through. -/
def admitsStatically (f : Filter) (e : Event) : Bool :=
  ((Directive.mostSpecific? (f.statics.filter (·.concernsEvent e))).map
    (fun d => Limit.admits d.limit e.severity)).getD false

/-- Tells whether a span lets through what happens in it. -/
def admitsWithin (f : Filter) (target : String) (severity : Severity) (s : Span) : Bool :=
  f.dynamics.any (fun d =>
    d.concernsSpan target s && d.asks.all (·.isMet s) &&
      Limit.admits d.limit severity)

def admits (f : Filter) (e : Event) : Bool :=
  e.spans.any (f.admitsWithin e.target e.severity) || f.admitsStatically e

def shows (f : Filter) (target : String) (s : Span) : Bool :=
  f.dynamics.any (·.concernsSpan target s) ||
    ((Directive.mostSpecific? (f.statics.filter (·.concernsTarget target))).map
      (fun d => Limit.admits d.limit .info)).getD false

/-- An event as it is logged, without the spans that are not shown. -/
def logged? (f : Filter) (e : Event) : Option Event :=
  if f.admits e then some { e with spans := e.spans.filter (f.shows e.target) } else none

end Filter

end DocSync.Log
