import AnalyzerClient.Protocol.Message
import AnalyzerClient.Protocol.Notice
import AnalyzerClient.Server.Launch

/-!
# The client

The client starts servers, one after the other. Every start makes a new table of the requests that
await a response, and every server has a reader that resolves the requests of the table of its
start. What this module defines are the single steps of the client; they are atomic, and everything
else is made of them.
-/

namespace AnalyzerClient

open AnalyzerClient.Protocol (Error Notice)

/-- The state of the server as the client sees it. -/
inductive ServerState where
  | stopped
  | starting
  | running
  | shuttingDown
  | failed
  deriving DecidableEq, Repr

/-- The name of a state. -/
def ServerState.name : ServerState → String
  | .stopped => "Stopped"
  | .starting => "Starting"
  | .running => "Running"
  | .shuttingDown => "ShuttingDown"
  | .failed => "Failed"

/-- Something that the client tells. -/
inductive ClientEvent where
  | started (server : String)
  | stopped (server : String)
  /-- The server went away without being asked to. -/
  | crashed (server reason : String)
  | notice (notice : Notice)
  deriving Repr

/-- What a response says. -/
inductive Reply where
  | result (value : Json)
  | error (code : Int) (message : String)
  deriving Repr

/-- The reply of a response. Any error counts, and a missing result is null. -/
def Reply.ofResponse (result : Option Json) (error : Option Protocol.ResponseError) : Reply :=
  match error with
  | some e => .error e.code e.message
  | none => .result (result.getD .null)

/-- The requests that await a response. A table that is closed takes no more requests. -/
structure PendingTable where
  closed : Bool
  waiting : List Int
  deriving DecidableEq, Repr, Inhabited

namespace PendingTable

/-- The open table without requests. -/
def empty : PendingTable := ⟨false, []⟩

/-- Adds a request. -/
def register (t : PendingTable) (id : Int) : Except Error PendingTable :=
  if t.closed then .error .notRunning else .ok { t with waiting := id :: t.waiting.erase id }

/-- Removes a request. -/
def remove (t : PendingTable) (id : Int) : PendingTable :=
  { t with waiting := t.waiting.filter (· != id) }

/-- Closes a table, and gives up all of its requests. -/
def close (_ : PendingTable) : PendingTable := ⟨true, []⟩

end PendingTable

/-- The client with all that it ever started. -/
structure Client where
  config : Server.Config
  state : ServerState
  /-- The number of the next request. -/
  nextId : Int
  /-- The tables of all starts; the first was there before any. -/
  tables : List PendingTable
  /-- The table in which requests are registered. -/
  table : Nat
  /-- The tables that the readers of the servers resolve, the first server first. -/
  readers : List Nat
  /-- The server to which messages are written. -/
  transport : Option Nat
  /-- The server whose process the client holds. -/
  process : Option Nat
  /-- The replies that requests got. -/
  replies : List (Int × Reply)
  /-- What was told, the oldest first. -/
  events : List ClientEvent
  /-- What was logged, the oldest first. -/
  log : List String

namespace Client

/-- The client before the first start. -/
def new (config : Server.Config) : Client where
  config := config
  state := .stopped
  nextId := 1
  tables := [.empty]
  table := 0
  readers := []
  transport := none
  process := none
  replies := []
  events := []
  log := []

/-- Writes a line to the log. -/
def note (c : Client) (line : String) : Client := { c with log := c.log ++ [line] }

/-- Tells something. -/
def emit (c : Client) (e : ClientEvent) : Client := { c with events := c.events ++ [e] }

/-- Changes the state. -/
def setState (c : Client) (state : ServerState) : Client := { c with state := state }

/-! ## Requests -/

/-- Takes a number for a request. Numbers are never taken twice. -/
def issue (c : Client) : Int × Client := (c.nextId, { c with nextId := c.nextId + 1 })

/-- The table in which requests are registered. -/
def current (c : Client) : PendingTable := c.tables.getD c.table .empty

/-- Changes a table. -/
def updateTable (c : Client) (t : Nat) (f : PendingTable → PendingTable) : Client :=
  { c with tables := c.tables.modify t f }

/-- Registers a request. -/
def register (c : Client) (id : Int) : Except Error Client :=
  (c.current.register id).map fun table => c.updateTable c.table fun _ => table

/-- Withdraws a request that could not be written. -/
def withdraw (c : Client) (id : Int) : Client := c.updateTable c.table (·.remove id)

/-- Whether a request awaits its response in a table. -/
def isWaitingIn (c : Client) (t : Nat) (id : Int) : Bool :=
  (c.tables.getD t .empty).waiting.contains id

/-- Whether a request awaits its response. -/
def isWaiting (c : Client) (id : Int) : Bool := c.tables.any (·.waiting.contains id)

/-- The reply to a request. -/
def replyTo? (c : Client) (id : Int) : Option Reply := List.lookup id c.replies

/-- Gives a request of a table its reply. -/
def resolve (c : Client) (t : Nat) (id : Int) (reply : Reply) : Client :=
  { c.updateTable t (·.remove id) with replies := (id, reply) :: c.replies }

/-! ## Starting and stopping -/

/-- Begins a start, with a new table. -/
def beginStart (c : Client) : Client :=
  { c with state := .starting, tables := c.tables ++ [.empty], table := c.tables.length }

/-- Takes over a server that was started: messages are written to it, and its reader resolves the
requests of the present table. -/
def attach (c : Client) : Client :=
  { c with
    readers := c.readers ++ [c.table], transport := some c.readers.length,
    process := some c.readers.length }

/-- Ends a start: the server runs, unless its reader found that it went away. -/
def markRunning (c : Client) : Except Error Client :=
  if c.state = .starting then .ok (c.setState .running) else .error .notRunning

/-- Lets go of the server. -/
def detach (c : Client) : Client := { c with transport := none, process := none }

/-! ## The end of a reader -/

/-- The table that the reader of a server resolves. -/
def tableOf (c : Client) (server : Nat) : Nat := c.readers.getD server 0

/-- Closes the table of the reader of a server. -/
def closeTable (c : Client) (server : Nat) : Client := c.updateTable (c.tableOf server) (·.close)

/-- Whether the end of a server was asked for. -/
def expectsEnd (c : Client) : Bool := c.state == .shuttingDown || c.state == .stopped

/-- Counts the server as failed, and tells so. -/
def crash (c : Client) (reason : String) : Client :=
  ((c.setState .failed).note (c.config.name ++ " exited: " ++ reason)).emit
    (.crashed c.config.name reason)

/-- What the reader of a server does in the end. -/
def endReader (c : Client) (server : Nat) (reason : String) : Client :=
  let c := c.closeTable server
  if c.expectsEnd then c else c.crash reason

end Client

end AnalyzerClient
