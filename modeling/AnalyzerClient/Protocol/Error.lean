import AnalyzerClient.Json.Printer
import AnalyzerClient.Json.Fault
import AnalyzerClient.OsError

/-!
# What can go wrong between client and server
-/

namespace AnalyzerClient.Protocol

/-- A violation of the protocol by the server. -/
inductive Violation where
  /-- A header gives a length that is no number. -/
  | badLength (text : String)
  /-- No header gives a length. -/
  | missingLength
  /-- The id of a response is no integer of 64 bits. -/
  | responseId (id : Json)
  /-- A message has neither an id nor a method. -/
  | unknownMessage
  /-- The server does not tell its version. -/
  | noVersion (binary status : String)
  deriving Repr

/-- The wording of a violation. -/
def Violation.message : Violation → String
  | .badLength text => "bad Content-Length: " ++ text
  | .missingLength => "missing Content-Length header"
  | .responseId id => "unexpected response id: " ++ id.compact
  | .unknownMessage => "neither id nor method present"
  | .noVersion binary status => binary ++ " --version exited with " ++ status

/-- A failure of the client or of its connection to the server. -/
inductive Error where
  /-- The server's binary is at none of these paths. -/
  | serverNotFound (name : String) (searched : List String)
  /-- The server's process could not be started. -/
  | spawn (command : String) (cause : OsError)
  /-- There is no server, or it has gone. -/
  | notRunning
  /-- The connection failed. -/
  | transport (cause : OsError)
  /-- The server broke the protocol. -/
  | protocol (violation : Violation)
  /-- A message is no JSON, or has not the shape that is needed. -/
  | json (fault : Json.Fault)
  /-- The server answered with an error. -/
  | server (code : Int) (message : String)
  /-- The server went away before it answered a request of this method. -/
  | cancelled (method : String)
  deriving Repr

/-- The wording of a failure. -/
def Error.message : Error → String
  | .serverNotFound name searched =>
    name ++ " not found (searched " ++ ", ".intercalate searched ++ ")"
  | .spawn command cause => "failed to spawn " ++ command ++ ": " ++ cause.message
  | .notRunning => "language server is not running"
  | .transport cause => "transport error: " ++ cause.message
  | .protocol violation => "invalid message: " ++ violation.message
  | .json _ => "malformed JSON: <json>"
  | .server code message => "server error " ++ Text.Numeral.renderInt code ++ ": " ++ message
  | .cancelled method => "`" ++ method ++ "` was cancelled before the server replied"

/-- The failure behind a failure, in words. -/
def Error.cause? : Error → Option String
  | .spawn _ cause => some cause.message
  | .transport cause => some cause.message
  | .json _ => some "<json>"
  | _ => none

end AnalyzerClient.Protocol
