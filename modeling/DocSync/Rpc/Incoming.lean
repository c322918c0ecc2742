import DocSync.Json.Reader
import DocSync.Rpc.Connection

/-! # The stream of messages

  Messages arrive as texts. A text is a call, an answer to a request of the
  server, or no message at all. After the last kind, which is reported without
  an identifier, and after `exit`, the stream is at its end.

  A text is judged by the value at its front before what follows the value is
  looked at.
-/

namespace DocSync.Rpc

/-- What a text turns out to be. -/
inductive Incoming where
  | call (m : Message)
  /-- An answer of the client. -/
  | answer
  /-- No message. -/
  | invalid (e : Error)

namespace Incoming

def ofText (text : String) : Incoming :=
  match Json.readFirst text.toList with
  | none => .invalid .parse
  | some (v, rest) =>
    if Response.isAnswer v then (if Json.atEnd rest then .answer else .invalid .parse)
    else match Message.ofJson? v with
      | none => .invalid .invalidRequest
      | some m => if Json.atEnd rest then .call m else .invalid .parse

end Incoming

/-- A connection and whether its stream goes on. -/
structure Stream where
  connection : Connection
  isOpen : Bool

namespace Stream

/-- A stream from which nothing has been read. -/
def initial : Stream := ⟨.initial, true⟩

/-- Reads a text from a stream that goes on. -/
def accept (s : Stream) (text : String) : Stream × Outcome :=
  match Incoming.ofText text with
  | .invalid e => ({ s with isOpen := false }, ⟨some ⟨.null, .error e⟩, []⟩)
  | .answer => (s, ⟨none, []⟩)
  | .call m =>
    match s.connection.receive m with
    | (c, none) => (⟨c, false⟩, ⟨none, []⟩)
    | (c, some outcome) => (⟨c, c.lifecycle ≠ .exited⟩, outcome)

/-- Reads a text, unless the stream is at its end. -/
def receive (s : Stream) (text : String) : Stream × Outcome :=
  if s.isOpen then s.accept text else (s, ⟨none, []⟩)

/-- Reads texts one after another. -/
def receiveAll (s : Stream) : List String → List Outcome
  | [] => []
  | text :: rest =>
    let (after, outcome) := s.receive text
    outcome :: receiveAll after rest

end Stream

end DocSync.Rpc
