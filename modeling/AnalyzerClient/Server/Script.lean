import AnalyzerClient.Process
import AnalyzerClient.Protocol.Frame
import AnalyzerClient.Protocol.Request

/-!
# Servers as scripts

A server is known by what it does on each request. A script lists this request by request; what it
does not say is answered with null, and so is the request to shut down. The server ends when it is
told to exit.
-/

namespace AnalyzerClient

/-- Something that a server does when it is asked. -/
inductive ServerAction where
  /-- Sends octets. -/
  | send (octets : List UInt8)
  /-- Sends a message, with what it lacks to be a response. -/
  | reply (message : Json)
  /-- Reads nothing any more. -/
  | closeInput
  /-- Ends the process. -/
  | exit
  deriving Repr

/-- What a server does on each request, one after the other. -/
abbrev ServerScript := List (List ServerAction)

/-- A server: the process, the script it follows, what was written to it, and what it sent. -/
structure Peer where
  spec : ProcessSpec
  script : ServerScript
  /-- Messages that were written to it and that it has not read. -/
  inbox : List Json
  /-- The messages that it read, the oldest first. -/
  received : List Json
  /-- What it sent and nobody has read. -/
  outbox : List UInt8
  inputOpen : Bool
  outputOpen : Bool

namespace Peer

/-- A server as it is started. -/
def started (spec : ProcessSpec) (script : ServerScript) : Peer :=
  ⟨spec, script, [], [], [], true, true⟩

/-- A message with the version of the protocol, and with the id of the request if it has neither an
id nor a method. -/
def complete (id message : Json) : Json :=
  let members := match message with
    | .object members => members
    | _ => []
  let members := Dict.insert members "jsonrpc" (.string "2.0")
  if Dict.contains members "id" || Dict.contains members "method" then .object members
  else .object (Dict.insert members "id" id)

/-- Does what stands in the script for a request with an id. -/
def act (id : Json) : List ServerAction → Peer → Peer
  | [], p => p
  | .send octets :: rest, p => act id rest { p with outbox := p.outbox ++ octets }
  | .reply message :: rest, p =>
    act id rest { p with outbox := p.outbox ++ Protocol.Frame.encode (complete id message) }
  | .closeInput :: rest, p => act id rest { p with inputOpen := false }
  | .exit :: _, p => { p with inputOpen := false, outputOpen := false }

/-- What a server does on a request that its script does not mention. -/
def standardActions (method : String) : List ServerAction :=
  if method == "initialize" then
    [.reply (.mkObject [("result", .mkObject [("capabilities", .object [])])])]
  else [.reply (.mkObject [("result", .null)])]

/-- Reads a message. -/
def receive (p : Peer) (message : Json) : Peer :=
  let p := { p with received := p.received ++ [message] }
  match (message.member? "method").bind Json.string?, message.member? "id" with
  | some method, some id =>
    if method == Protocol.Request.shutdown.method then act id (standardActions method) p
    else
      match p.script with
      | [] => act id (standardActions method) p
      | actions :: script => act id actions { p with script := script }
  | some method, none =>
    if method == Protocol.exitMethod then { p with inputOpen := false, outputOpen := false } else p
  | none, _ => p

/-- Reads messages as long as the input is open. -/
def receiveAll : List Json → Peer → Peer
  | [], p => p
  | message :: rest, p => if p.inputOpen then receiveAll rest (p.receive message) else p

/-- Reads all that was written. -/
def react (p : Peer) : Peer := receiveAll p.inbox { p with inbox := [] }

/-- Ends the process from outside, when nobody has noticed it yet: it reads nothing more. -/
def dismiss (p : Peer) : Peer := { p with inbox := [], inputOpen := false }

/-- Ends the process from outside. -/
def kill (p : Peer) : Peer := { p with inbox := [], inputOpen := false, outputOpen := false }

end Peer

end AnalyzerClient
