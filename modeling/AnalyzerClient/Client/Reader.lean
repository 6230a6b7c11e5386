import AnalyzerClient.Client.Basic

/-!
# Reading messages

What the reader of a server does with a message: a response resolves a request, a notice is told,
and a request of the server gets a response.
-/

namespace AnalyzerClient.Client

open AnalyzerClient.Protocol (Message Notice)

/-- Logs a message as the configuration says. -/
def trace (c : Client) (message : Json) : Client :=
  match c.config.trace with
  | .off => c
  | .messages => c.note ("<-- " ++ Message.summary message)
  | .verbose => c.note ("<-- " ++ message.compact)

/-- The method with which the server asks for its configuration. -/
def configurationMethod : String := "workspace/configuration"

/-- The result of a request of the server. The client has no configuration for the server, so that
every item of it is null, and knows no other requests. -/
def answerTo (method : String) (params : Json) : Json :=
  if method == configurationMethod then
    .array (List.replicate (((params.member "items").items?.getD []).length) .null)
  else .null

/-- A response that the reader writes, with the method of the request. -/
structure Answer where
  method : String
  message : Json
  deriving Repr

/-- Handles a response to the reader of a table. -/
def handleResponse (c : Client) (t : Nat) (id : Int) (reply : Reply) : Client :=
  if c.isWaitingIn t id then c.resolve t id reply
  else c.note ("Response for unknown request #" ++ Text.Numeral.renderInt id)

/-- Handles a message to the reader of a server, and gives what is to be written. -/
def handle (c : Client) (server : Nat) (message : Json) : Client × Option Answer :=
  let c := c.trace message
  match Message.ofJson message with
  | .error violation =>
    (c.note ("Ignoring message from " ++ c.config.name ++ ": " ++
      (Protocol.Error.protocol violation).message), none)
  | .ok (.response id result error) =>
    (c.handleResponse (c.tableOf server) id (.ofResponse result error), none)
  | .ok (.notification method params) =>
    match Notice.ofNotification? method params with
    | some notice => (c.emit (.notice notice), none)
    | none => (c, none)
  | .ok (.request id method params) =>
    (c, some ⟨method, Message.responseJson id (answerTo method params)⟩)

/-- Logs that a response could not be written. -/
def noteUnanswered (c : Client) (method : String) (e : Protocol.Error) : Client :=
  c.note ("Failed to answer " ++ method ++ ": " ++ e.message)

end AnalyzerClient.Client
