import DocSync.Log.Notice
import DocSync.Rpc.Message

/-! # What the client is sent

  The client is sent the answers to its requests, and the notices of the log as
  notifications of their own.
-/

namespace DocSync.Rpc

/-- Something for the client. -/
inductive Outgoing where
  | response (r : Response)
  | notice (n : Log.Notice)

namespace Outgoing

def noticeMethod : String := "window/logMessage"

/-- The message that carries something to the client. -/
def toJson : Outgoing → Json
  | .response r => r.toJson
  | .notice n => .object [("jsonrpc", .string version), ("method", .string noticeMethod),
      ("params", .object [("type", .integer n.kind.number), ("message", .string n.text)])]

end Outgoing

end DocSync.Rpc
