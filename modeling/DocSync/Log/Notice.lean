import DocSync.Log.Event

/-! # Notices to the client

  The client is told of events as they happen. It sees those that say something
  and are grave enough: at least `info`, and `debug` too when the configured
  level asks for it. Events of severity `trace` it never sees.
-/

namespace DocSync.Log

/-! ### Notices -/

/-- The kinds of notices that a client knows. -/
inductive NoticeKind where
  | error
  | warning
  | info
  | log
  deriving DecidableEq, Repr

def NoticeKind.number : NoticeKind → Nat
  | .error => 1
  | .warning => 2
  | .info => 3
  | .log => 4

/-- A text for the client. -/
structure Notice where
  kind : NoticeKind
  text : String
  deriving DecidableEq, Repr

namespace Notice

/-- The kind of notice for a severity; there is none for `trace`. -/
def kind? : Severity → Option NoticeKind
  | .error => some .error
  | .warn => some .warning
  | .info => some .info
  | .debug => some .log
  | .trace => none

/-- The notice of an event, whatever the configured level. -/
def ofEvent? (e : Event) : Option Notice :=
  match kind? e.severity, e.message? with
  | some kind, some value => some ⟨kind, value.shown⟩
  | _, _ => none

end Notice

/-! ### What a level lets through -/

/-- Tells whether a severity is at least as grave as a limit. -/
def Severity.reaches (s limit : Severity) : Bool := s.detail ≤ limit.detail

/-- The least grave severity that the client gets to see. -/
def Level.clientLimit : Level → Severity
  | .debug => .debug
  | .info | .warning | .error => .info

/-- The notice of an event for a client at a configured level. -/
def Level.notice? (level : Level) (e : Event) : Option Notice :=
  if e.severity.reaches level.clientLimit then Notice.ofEvent? e else none

def Level.notices (level : Level) (events : List Event) : List Notice :=
  events.filterMap level.notice?

end DocSync.Log
