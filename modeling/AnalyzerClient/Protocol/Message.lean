import AnalyzerClient.Protocol.Error

/-!
# Messages

A message with an id and a method is a request, one with an id alone is a response, and one with a
method alone is a notification.
-/

namespace AnalyzerClient.Protocol

/-- The error that a response can carry. -/
structure ResponseError where
  code : Int
  message : String
  data : Option Json
  deriving Repr

/-- A message of the server. -/
inductive Message where
  /-- A request; any value can be its id. -/
  | request (id : Json) (method : String) (params : Json)
  | notification (method : String) (params : Json)
  | response (id : Int) (result : Option Json) (error : Option ResponseError)
  deriving Repr

namespace Message

/-- The error of a response. What it lacks is taken as zero or empty. -/
def errorOf (v : Json) : ResponseError where
  code := (v.member "code").int64?.getD 0
  message := (v.member "message").string?.getD ""
  data := v.member? "data"

/-- Reads a value as a message. -/
def ofJson (v : Json) : Except Violation Message :=
  let method := (v.member? "method").bind Json.string?
  let params := v.member "params"
  match v.member? "id", method with
  | some id, some method => .ok (.request id method params)
  | some id, none =>
    match id.int64? with
    | some n => .ok (.response n (v.member? "result") ((v.member? "error").map errorOf))
    | none => .error (.responseId id)
  | none, some method => .ok (.notification method params)
  | none, none => .error .unknownMessage

/-- A request of the client. -/
def requestJson (id : Int) (method : String) (params : Json) : Json :=
  .mkObject [("jsonrpc", .string "2.0"), ("id", .ofInt id), ("method", .string method),
    ("params", params)]

/-- A notification of the client. -/
def notificationJson (method : String) (params : Json) : Json :=
  .mkObject [("jsonrpc", .string "2.0"), ("method", .string method), ("params", params)]

/-- The client's response to a request of the server. -/
def responseJson (id result : Json) : Json :=
  .mkObject [("jsonrpc", .string "2.0"), ("id", id), ("result", result)]

/-- A message in a few words. -/
def summary (v : Json) : String :=
  match (v.member? "method").bind Json.string?, v.member? "id" with
  | some method, some id => "request " ++ method ++ " #" ++ id.compact
  | some method, none => "notification " ++ method
  | none, some id => "response #" ++ id.compact
  | none, none => "unknown"

end Message

end AnalyzerClient.Protocol
