import AnalyzerClient.Client.Reader
import AnalyzerClient.Machine
import AnalyzerClient.Server.Script

/-!
# Client and servers together

An exchange is a client together with the servers that it started. It is run without overlap: what
the client wrote is read by the servers, what these sent is read by their readers, and only then
does the client go on. A client that would wait for ever has no next state.
-/

namespace AnalyzerClient

open AnalyzerClient.Protocol (Error Message Request)

/-- A server, and whether its reader still reads. -/
structure Link where
  peer : Peer
  reading : Bool

/-- A client and the servers that it started, the first one first. -/
structure Exchange where
  client : Client
  links : List Link
  /-- What the servers that are yet to be started will do. -/
  scripts : List ServerScript
  machine : Machine

/-- A run of an exchange; it has no result when the client waits for ever. -/
abbrev ExchangeM := StateT Exchange Option

namespace Exchange

/-- The exchange before the first start; `scripts` is what the servers will do. -/
def new (config : Server.Config) (scripts : List ServerScript) (machine : Machine) : Exchange :=
  ⟨.new config, [], scripts, machine⟩

/-- Changes the client. -/
def updateClient (x : Exchange) (f : Client → Client) : Exchange :=
  { x with client := f x.client }

/-- Changes a link. -/
def updateLink (x : Exchange) (server : Nat) (f : Link → Link) : Exchange :=
  { x with links := x.links.modify server f }

/-- Writes a message to a server. -/
def write (x : Exchange) (server : Nat) (message : Json) : Except Error Unit × Exchange :=
  match x.links[server]? with
  | none => (.error .notRunning, x)
  | some link =>
    if link.peer.inputOpen then
      (.ok (), x.updateLink server fun l =>
        { l with peer := { l.peer with inbox := l.peer.inbox ++ [message] } })
    else (.error (.transport .brokenPipe), x)

/-- Writes the response to a request of a server, and logs when this fails. -/
def writeAnswer (x : Exchange) (server : Nat) (answer : Client.Answer) : Exchange :=
  match x.write server answer.message with
  | (.ok (), x) => x
  | (.error e, x) => x.updateClient (·.noteUnanswered answer.method e)

/-- Stops the reader of a server. -/
def stopReading (x : Exchange) (server : Nat) : Exchange :=
  x.updateLink server fun l => { l with reading := false }

/-- Why a reader ends at the end of the stream. -/
def endOfStream : String := "server closed its output"

/-- Ends the reader of a server. -/
def endReader (x : Exchange) (server : Nat) (reason : String) : Exchange :=
  (x.stopReading server).updateClient (·.endReader server reason)

/-- Handles a message that was read from a server; `rest` is what is left of the stream. -/
def handle (x : Exchange) (server : Nat) (message : Json) (rest : List UInt8) : Exchange :=
  let x := x.updateLink server fun l => { l with peer := { l.peer with outbox := rest } }
  let (client, answer) := x.client.handle server message
  let x := { x with client := client }
  match answer with
  | none => x
  | some answer => x.writeAnswer server answer

/-- Reads at most `fuel` messages from a server. -/
def read (server : Nat) : (fuel : Nat) → Exchange → Exchange
  | 0, x => x
  | fuel + 1, x =>
    match x.links[server]? with
    | none => x
    | some link =>
      if link.reading then
        match Protocol.Frame.read (!link.peer.outputOpen) link.peer.outbox with
        | .message message rest => read server fuel (x.handle server message rest)
        | .finished => x.endReader server endOfStream
        | .failed e => x.endReader server e.message
        | .waiting => x
        | .breakdown _ => x.stopReading server
      else x

/-- Reads all that a server sent; every message takes at least one octet. -/
def readFully (x : Exchange) (server : Nat) : Exchange :=
  match x.links[server]? with
  | none => x
  | some link => read server (link.peer.outbox.length + 1) x

/-- Lets the servers read what was written to them. -/
def react (x : Exchange) : Exchange :=
  { x with links := x.links.map fun l => { l with peer := l.peer.react } }

/-- Lets the readers read what the servers sent. -/
def readAll (x : Exchange) : Exchange := (List.range x.links.length).foldl readFully x

/-- Lets everything happen that can happen without the client: no server sends anything when it
reads a response, so that there is nothing more to do then. -/
def settle (x : Exchange) : Exchange := x.react.readAll.react

end Exchange

namespace ExchangeM

/-- Changes the client. -/
def updateClient (f : Client → Client) : ExchangeM Unit := modify (·.updateClient f)

/-- Lets everything happen that can happen without the client. -/
def settle : ExchangeM Unit := modify (·.settle)

/-- Sends a request, and gives its number. -/
def send (method : String) (params : Json) : ExchangeM (Except Error Int) := do
  match (← get).client.transport with
  | none => return .error .notRunning
  | some server =>
    let (id, client) := (← get).client.issue
    updateClient fun _ => client
    match client.register id with
    | .error e => return .error e
    | .ok client =>
      updateClient fun _ => client.note
        ("--> " ++ method ++ " #" ++ Text.Numeral.renderInt id)
      let (written, x) := (← get).write server (Message.requestJson id method params)
      set x
      match written with
      | .error e =>
        updateClient (·.withdraw id)
        return .error e
      | .ok () => return .ok id

/-- What became of a request. -/
def outcome (c : Client) (method : String) (id : Int) : Option (Except Error Json) :=
  match c.replyTo? id with
  | some (.result value) => some (.ok value)
  | some (.error code message) => some (.error (.server code message))
  | none => if c.isWaiting id then none else some (.error (.cancelled method))

/-- Waits for the response to a request. -/
def await (method : String) (id : Int) : ExchangeM (Except Error Json) := do
  match outcome (← get).client method id with
  | some result => return result
  | none => failure

/-- Decodes the result of a request. -/
def decodeResult {α : Type} (r : Request α) (value : Except Error Json) : Except Error α := do
  let value ← value
  (r.decode.ofJson value).mapError .json

/-- Sends requests, and waits for their responses when all of them are sent. -/
def requestAll (requests : List (String × Json)) : ExchangeM (List (Except Error Json)) := do
  let sent ← requests.mapM fun (method, params) => return (method, ← send method params)
  settle
  sent.mapM fun (method, sent) =>
    match sent with
    | .error e => return .error e
    | .ok id => await method id

/-- Sends a request and waits for its response. -/
def request {α : Type} (r : Request α) : ExchangeM (Except Error α) := do
  match ← send r.method r.params with
  | .error e => return .error e
  | .ok id =>
    settle
    return decodeResult r (← await r.method id)

/-- Sends a notification. -/
def notify (method : String) (params : Json) : ExchangeM (Except Error Unit) := do
  match (← get).client.transport with
  | none => return .error .notRunning
  | some server =>
    let (written, x) := (← get).write server (Message.notificationJson method params)
    set x
    settle
    return written

/-- Tells the server that a document is open. -/
def openDocument (uri : Uri) (version : Int) (text : String) : ExchangeM (Except Error Unit) := do
  let language := (← get).client.config.languageId
  notify Protocol.openMethod (Protocol.openedDocument uri language version text)

end ExchangeM

end AnalyzerClient
