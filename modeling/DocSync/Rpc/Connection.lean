import DocSync.Rpc.Message
import DocSync.Rpc.Params

/-! # A connection and its lifecycle

  A connection is used in an order: first `initialize`, then everything else,
  then `shutdown`, and at any time `exit`, after which nothing is answered any
  more.

  `Message.call?` is the whole effect of a message on the server: the call that
  it makes, if any. It is a notification's call only without an identifier, and
  a request's only with one.
-/

namespace DocSync.Rpc

/-- How far a connection is. -/
inductive Lifecycle where
  | uninitialized
  | initialized
  | shutDown
  | exited
  deriving DecidableEq, Repr

/-- The kinds of known methods. -/
inductive Method.Kind where
  | request
  | notification
  deriving DecidableEq, Repr

/-- The kind of a method that is bound to the lifecycle. -/
def Method.kind : Method → Method.Kind
  | .startup | .shutdown | .otherRequest _ => .request
  | .initialized | .exit | .cancel | .didOpen | .didChange | .didClose | .otherNotification =>
    .notification

/-! ### What a message does -/

namespace Message

/-- The answer to a message that has an identifier. -/
def respond (m : Message) (outcome : Except Error Json) : Option Response :=
  m.id.map (⟨·, outcome⟩)

/-- Tells whether the method of a message may be ignored where it is unknown. -/
def isIgnorable (m : Message) : Bool := "$/".toList.isPrefixOf m.method.toList

/-- The call that a message with a method makes, once it is let through: a
    request needs an identifier, and a notification must not have one. -/
def call? (m : Message) (method : Method) : Option Server.Call :=
  match method.kind, m.id with
  | .request, some _ => Params.call? method m.params
  | .notification, none => Params.call? method m.params
  | _, _ => none

/-- The outcome of a request that is let through. -/
def requestOutcome (m : Message) (method : Method) : Except Error Json :=
  match method, Params.call? method m.params with
  | .otherRequest shape, _ =>
    if shape.fits m.params then .error .methodNotFound else .error .invalidParams
  | .startup, some _ => .ok Server.introduction
  | _, some _ => .ok .null
  | _, none => .error .invalidParams

/-- The answer to a message that is let through. -/
def answer (m : Message) (method : Method) : Option Response :=
  match method.kind with
  | .request => m.respond (m.requestOutcome method)
  | .notification => m.respond (.error .invalidRequest)

end Message

/-! ### Connections -/

/-- A connection: how far it is, and the documents that are open. -/
structure Connection where
  lifecycle : Lifecycle
  store : Store

/-- What comes of a message. -/
structure Outcome where
  response : Option Response
  events : List Log.Event

namespace Connection

/-- A connection on which nothing has happened. -/
def initial : Connection := ⟨.uninitialized, .empty⟩

/-- Answers a message without acting on it. -/
def refuse (c : Connection) (m : Message) (e : Error) : Connection × Outcome :=
  (c, ⟨m.respond (.error e), []⟩)

/-- Passes a message over. -/
def ignore (c : Connection) : Connection × Outcome := (c, ⟨none, []⟩)

/-- Acts on a message. -/
def serve (c : Connection) (m : Message) (method : Method) : Connection × Outcome :=
  match m.call? method with
  | none => (c, ⟨m.answer method, []⟩)
  | some call =>
    let (store, events) := Server.handle c.store call
    ({ c with store := store }, ⟨m.answer method, events⟩)

/-- Acts on `initialize`, by which the connection is initialized if it succeeds. -/
def serveStartup (c : Connection) (m : Message) : Connection × Outcome :=
  let (after, outcome) := c.serve m .startup
  (if (m.call? .startup).isSome then { after with lifecycle := .initialized } else after, outcome)

/-- Acts on a message by what is due at this point of the lifecycle. -/
def dispatch (c : Connection) (m : Message) (method : Method) : Connection × Outcome :=
  match method, c.lifecycle with
  -- These two are due at any time.
  | .exit, _ => ({ c with lifecycle := .exited }, ⟨none, []⟩)
  | .cancel, _ => c.serve m .cancel
  -- The lifecycle goes one way, and only once through each of its stages.
  | .startup, .uninitialized => c.serveStartup m
  | .startup, _ => c.refuse m .invalidRequest
  | _, .uninitialized => c.refuse m .notInitialized
  | .shutdown, .initialized => { c with lifecycle := .shutDown }.serve m .shutdown
  | method, .initialized => c.serve m method
  | _, _ => c.refuse m .invalidRequest

/-- Receives a message. After `exit` there is no outcome. -/
def receive (c : Connection) (m : Message) : Connection × Option Outcome :=
  match c.lifecycle with
  | .exited => (c, none)
  | _ =>
    let (after, outcome) := match Method.ofName? m.method with
      | some method => c.dispatch m method
      | none => if m.isIgnorable then c.ignore else c.refuse m (.unknownMethod m.method)
    (after, some outcome)

/-- The connection after a sequence of messages. -/
def receiveAll (c : Connection) (messages : List Message) : Connection :=
  messages.foldl (fun c m => (c.receive m).1) c

end Connection

end DocSync.Rpc
