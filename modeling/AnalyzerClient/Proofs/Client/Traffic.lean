import AnalyzerClient.Client.Lifecycle

/-!
# Clients and servers that run side by side

An exchange lets client and servers take turns. Here they overlap: any number of requests is under
way, every server has a reader of its own, and the owner of the client starts and stops servers. A
`Step` is one action of one of them, made of the atomic steps of the client, and a `Run` is any
sequence of steps. What the servers send is any sequence of octets, in pieces of any size.

Starting and stopping need the client for themselves: they begin when no request is under way, and
until they end the only requests are their own.
-/

namespace AnalyzerClient

open AnalyzerClient.Protocol (Error Frame.read Message Request)

namespace Traffic

/-! ## Requests -/

/-- How far a request got. -/
inductive Stage where
  /-- It has its number. -/
  | issued
  /-- It stands in a table and is to be written. -/
  | registered
  /-- It could not be written and is to be withdrawn. -/
  | unsent (cause : OsError)
  /-- It was written and awaits its response. -/
  | sent
  | ended (result : Except Error Json)
  /-- It was given up by its caller. -/
  | dropped

/-- Whether a request is under way. -/
def Stage.live : Stage → Bool
  | .ended _ | .dropped => false
  | _ => true

/-- A request: its number, what it asks for, and the server to which it is written. -/
structure Call where
  id : Int
  method : String
  params : Json
  server : Nat
  stage : Stage

/-- Who writes to a server. -/
inductive Author where
  | call (k : Nat)
  | reader (server : Nat)
  | notifier

/-- A message that was written to a server. -/
structure Parcel where
  author : Author
  server : Nat
  message : Json

/-- What a request does. -/
inductive CallAction where
  | register
  | refuse
  | write
  | writeFails (cause : OsError)
  | withdraw
  | receive
  | drop

/-- The actions of a request, with what they make of the client and what they write. -/
inductive CallStep (k : Nat) (c : Client) (call : Call) :
    CallAction → Client → Stage → List Parcel → Prop
  | register {c' : Client} (stage : call.stage = .issued) (ok : c.register call.id = .ok c') :
    CallStep k c call .register
      (c'.note ("--> " ++ call.method ++ " #" ++ Text.Numeral.renderInt call.id)) .registered []
  | refuse {e : Error} (stage : call.stage = .issued) (error : c.register call.id = .error e) :
    CallStep k c call .refuse c (.ended (.error e)) []
  | write (stage : call.stage = .registered) :
    CallStep k c call .write c .sent
      [⟨.call k, call.server, Message.requestJson call.id call.method call.params⟩]
  | writeFails (cause : OsError) (stage : call.stage = .registered) :
    CallStep k c call (.writeFails cause) c (.unsent cause) []
  | withdraw {cause : OsError} (stage : call.stage = .unsent cause) :
    CallStep k c call .withdraw (c.withdraw call.id) (.ended (.error (.transport cause))) []
  | receive {result : Except Error Json} (stage : call.stage = .sent)
      (outcome : ExchangeM.outcome c call.method call.id = some result) :
    CallStep k c call .receive c (.ended result) []
  | drop (live : call.stage.live) : CallStep k c call .drop c .dropped []

/-! ## Readers -/

/-- How far the reader of a server got. -/
inductive ReaderStage where
  | reading
  /-- It writes the response to a request of the server. -/
  | answering (answer : Client.Answer)
  /-- It reads no more, and is to close its table. -/
  | left (reason : String)
  | closed (reason : String)
  /-- Nobody asked for the end of the server. -/
  | condemned (reason : String)
  /-- The server is counted as failed, and this is to be told. -/
  | failed (reason : String)
  | finished
  /-- It broke down. -/
  | broken
  /-- It was stopped from outside. -/
  | aborted

/-- Whether the table of a reader was closed. -/
def ReaderStage.hasClosed : ReaderStage → Bool
  | .closed _ | .condemned _ | .failed _ | .finished => true
  | _ => false

/-- What a server sent and nobody has read, whether it will send more, and its reader, which can be
asked to stop. -/
structure Stream where
  octets : List UInt8
  ended : Bool
  doomed : Bool
  stage : ReaderStage

/-- The stream of a server that was just started. -/
def Stream.fresh : Stream := ⟨[], false, false, .reading⟩

/-- Why a reader leaves its loop at the octets of a stream. -/
inductive Stream.Ends (st : Stream) : String → Prop
  | finished (reading : Frame.read st.ended st.octets = .finished) : Ends st Exchange.endOfStream
  | failed {e : Error} (reading : Frame.read st.ended st.octets = .failed e) : Ends st e.message
  /-- The octets cannot be read at all. -/
  | unreadable (cause : OsError) : Ends st (Error.transport cause).message

/-- What a reader does. -/
inductive ReaderAction where
  | read (message : Json)
  | answer
  | answerFails (e : Error)
  | leave (reason : String)
  | breakDown
  | close
  | expect
  | condemn
  | fail
  | tell
  | vanish

/-- The actions of the reader of a server, with what they make of the client and of the stream and
what they write. -/
inductive ReaderStep (server : Nat) (c : Client) (st : Stream) :
    ReaderAction → Client → Stream → List Parcel → Prop
  | read {message : Json} {rest : List UInt8} {c' : Client} {answer : Option Client.Answer}
      (stage : st.stage = .reading)
      (reading : Frame.read st.ended st.octets = .message message rest)
      (handle : c.handle server message = (c', answer)) :
    ReaderStep server c st (.read message) c'
      { st with octets := rest, stage := answer.elim .reading .answering } []
  | answer {answer : Client.Answer} (stage : st.stage = .answering answer) :
    ReaderStep server c st .answer c { st with stage := .reading }
      [⟨.reader server, server, answer.message⟩]
  | answerFails {answer : Client.Answer} (e : Error) (stage : st.stage = .answering answer) :
    ReaderStep server c st (.answerFails e) (c.noteUnanswered answer.method e)
      { st with stage := .reading } []
  | leave {reason : String} (stage : st.stage = .reading) (ends : st.Ends reason) :
    ReaderStep server c st (.leave reason) c { st with stage := .left reason } []
  | breakDown {length : Nat} (stage : st.stage = .reading)
      (reading : Frame.read st.ended st.octets = .breakdown length) :
    ReaderStep server c st .breakDown c { st with stage := .broken } []
  | close {reason : String} (stage : st.stage = .left reason) :
    ReaderStep server c st .close (c.closeTable server) { st with stage := .closed reason } []
  | expect {reason : String} (stage : st.stage = .closed reason) (expected : c.expectsEnd) :
    ReaderStep server c st .expect c { st with stage := .finished } []
  | condemn {reason : String} (stage : st.stage = .closed reason) (unexpected : ¬ c.expectsEnd) :
    ReaderStep server c st .condemn c { st with stage := .condemned reason } []
  | fail {reason : String} (stage : st.stage = .condemned reason) :
    ReaderStep server c st .fail (c.setState .failed) { st with stage := .failed reason } []
  | tell {reason : String} (stage : st.stage = .failed reason) :
    ReaderStep server c st .tell
      ((c.note (c.config.name ++ " exited: " ++ reason)).emit (.crashed c.config.name reason))
      { st with stage := .finished } []
  /-- A reader can be stopped only while it waits for the server. -/
  | vanish (doomed : st.doomed)
      (stage : st.stage = .reading ∨ ∃ answer, st.stage = .answering answer) :
    ReaderStep server c st .vanish c { st with stage := .aborted } []

/-! ## The owner of the client -/

/-- How far the owner got with starting or stopping a server. -/
inductive Owner where
  | idle
  /-- The start has a new table. -/
  | tabled
  /-- The server runs and its reader reads. -/
  | attached
  /-- The first request is under way. -/
  | introducing (k : Nat)
  | introduced
  | acknowledged
  /-- The server counts as running, and this is to be told. -/
  | marked
  | stopping
  /-- The last request is under way. -/
  | parting (k : Nat)
  | parted
  | leaving
  | detached
  /-- The server counts as stopped, and this is to be told. -/
  | halted

/-- What the owner does. -/
inductive OwnerAction where
  | beginStart
  | spawnFails
  | attach
  | introduce (processId : Nat) (root : Option Uri)
  | accept (info : Option Protocol.ServerInfo)
  | acknowledge
  | mark
  | tellStarted
  | fail
  | beginStop
  | part
  | skip
  | hearGoodbye
  | sayExit
  | exitFails
  | detach
  | halt
  | tellStopped
  | abandon

end Traffic

open Traffic

/-- A client with its requests, the streams of its servers, the owner of the client, and what was
written to the servers, the oldest first. -/
structure Traffic where
  client : Client
  calls : List Call
  streams : List Stream
  owner : Owner
  parcels : List Parcel

namespace Traffic

/-- The beginning: no request was made, and no server was started. -/
def initial (config : Server.Config) : Traffic := ⟨.new config, [], [], .idle, []⟩

/-- Whether nobody uses the client. -/
def Free (s : Traffic) : Prop := s.owner = .idle ∧ ∀ call ∈ s.calls, call.stage.live = false

/-- Makes a request, which takes a number. -/
def begin (s : Traffic) (server : Nat) (method : String) (params : Json) : Traffic :=
  { s with
    client := s.client.issue.2
    calls := s.calls ++ [⟨s.client.issue.1, method, params, server, .issued⟩] }

/-- The request that introduces the client to a server. -/
def introduction (s : Traffic) (processId : Nat) (root : Option Uri) :
    Request (Option Protocol.ServerInfo) :=
  .connect processId root s.client.config.initializationOptions s.client.config.trace

/-- The line with which a server that introduced itself is logged. -/
def greeting (info : Protocol.ServerInfo) : String :=
  "Connected to " ++ info.name ++ " " ++ info.version.getD ExchangeM.unknownVersion

/-- What an action of the owner makes of everything. -/
inductive OwnerStep (s : Traffic) : OwnerAction → Traffic → Prop
  | beginStart (free : s.Free) :
    OwnerStep s .beginStart { s with client := s.client.beginStart, owner := .tabled }
  | spawnFails (owner : s.owner = .tabled) :
    OwnerStep s .spawnFails { s with client := s.client.setState .failed, owner := .idle }
  | attach (owner : s.owner = .tabled) :
    OwnerStep s .attach
      { s with client := s.client.attach, streams := s.streams ++ [.fresh], owner := .attached }
  | introduce {server : Nat} (processId : Nat) (root : Option Uri) (owner : s.owner = .attached)
      (transport : s.client.transport = some server) :
    OwnerStep s (.introduce processId root)
      { s.begin server (s.introduction processId root).method (s.introduction processId root).params
          with owner := .introducing s.calls.length }
  | accept {k : Nat} {call : Call} {value : Json} {info : Option Protocol.ServerInfo}
      (owner : s.owner = .introducing k) (called : s.calls[k]? = some call)
      (ended : call.stage = .ended (.ok value))
      (decode : Protocol.initializeRecord.decode.ofJson value = .ok info) :
    OwnerStep s (.accept info)
      { s with client := info.elim s.client (s.client.note <| greeting ·), owner := .introduced }
  | acknowledge {server : Nat} (owner : s.owner = .introduced)
      (transport : s.client.transport = some server) :
    OwnerStep s .acknowledge
      { s with
        owner := .acknowledged
        parcels := s.parcels ++ [⟨.notifier, server,
          Message.notificationJson Protocol.initializedMethod (.object [])⟩] }
  /-- The first request fails, or its result is of no use, or the notification behind it fails. -/
  | fail (owner : s.owner = .introduced ∨
        ∃ k, s.owner = .introducing k ∧ ∃ call, s.calls[k]? = some call ∧ call.stage.live = false) :
    OwnerStep s .fail { s with client := s.client.setState .failed, owner := .idle }
  | mark {c : Client} (owner : s.owner = .acknowledged) (running : s.client.markRunning = .ok c) :
    OwnerStep s .mark { s with client := c, owner := .marked }
  | markFails {e : Error} (owner : s.owner = .acknowledged)
      (running : s.client.markRunning = .error e) :
    OwnerStep s .mark { s with owner := .idle }
  | tellStarted (owner : s.owner = .marked) :
    OwnerStep s .tellStarted
      { s with client := s.client.emit (.started s.client.config.name), owner := .idle }
  | beginStop (free : s.Free) :
    OwnerStep s .beginStop { s with client := s.client.setState .shuttingDown, owner := .stopping }
  | part {server : Nat} (owner : s.owner = .stopping)
      (transport : s.client.transport = some server) :
    OwnerStep s .part
      { s.begin server Request.shutdown.method Request.shutdown.params with
        owner := .parting s.calls.length }
  | skip (owner : s.owner = .stopping) (transport : s.client.transport = none) :
    OwnerStep s .skip { s with owner := .leaving }
  | hearGoodbye {k : Nat} {call : Call} {result : Except Error Json}
      (owner : s.owner = .parting k) (called : s.calls[k]? = some call)
      (ended : call.stage = .ended result) :
    OwnerStep s .hearGoodbye
      { s with
        client := match ExchangeM.decodeResult .shutdown result with
          | .error e => s.client.note ("Shutdown request failed: " ++ e.message)
          | .ok () => s.client
        owner := .parted }
  | sayExit {server : Nat} (owner : s.owner = .parted)
      (transport : s.client.transport = some server) :
    OwnerStep s .sayExit
      { s with
        owner := .leaving
        parcels := s.parcels ++
          [⟨.notifier, server, Message.notificationJson Protocol.exitMethod .null⟩] }
  | exitFails (owner : s.owner = .parted) : OwnerStep s .exitFails { s with owner := .leaving }
  | detach (owner : s.owner = .leaving) :
    OwnerStep s .detach
      { s with
        client := s.client.detach
        streams := s.streams.map fun st => { st with doomed := true }
        owner := .detached }
  | halt (owner : s.owner = .detached) :
    OwnerStep s .halt { s with client := s.client.setState .stopped, owner := .halted }
  | tellStopped (owner : s.owner = .halted) :
    OwnerStep s .tellStopped
      { s with client := s.client.emit (.stopped s.client.config.name), owner := .idle }
  /-- The owner gives up while it waits for the server. -/
  | abandon (free : ∀ call ∈ s.calls, call.stage.live = false)
      (owner : s.owner = .introduced ∨ s.owner = .parted ∨ s.owner = .leaving ∨
        ∃ k, s.owner = .introducing k ∨ s.owner = .parting k) :
    OwnerStep s .abandon { s with owner := .idle }

/-! ## Steps and runs -/

/-- What happens: a request is made or turned away, a notification is written or not, octets arrive
from a server or its output ends, or a request, the reader of a server or the owner does something.
An action of a reader tells the table that the reader resolves. -/
inductive Action where
  | begin (method : String) (params : Json)
  | turnAway (method : String) (params : Json)
  | notify (method : String) (params : Json)
  | notifyFails (method : String) (params : Json)
  | arrive (server : Nat) (octets : List UInt8)
  | hangUp (server : Nat)
  | call (k : Nat) (action : CallAction)
  | reader (server table : Nat) (action : ReaderAction)
  | owner (action : OwnerAction)

/-- What an action makes of everything. -/
inductive Step (s : Traffic) : Action → Traffic → Prop
  | begin {server : Nat} (method : String) (params : Json) (owner : s.owner = .idle)
      (transport : s.client.transport = some server) :
    Step s (.begin method params) (s.begin server method params)
  /-- Without a server a request fails at once: there is nothing to write to. -/
  | turnAway (method : String) (params : Json) (owner : s.owner = .idle)
      (transport : s.client.transport = none) :
    Step s (.turnAway method params) s
  | notify {server : Nat} (method : String) (params : Json) (owner : s.owner = .idle)
      (transport : s.client.transport = some server) :
    Step s (.notify method params)
      { s with
        parcels := s.parcels ++ [⟨.notifier, server, Message.notificationJson method params⟩] }
  | notifyFails (method : String) (params : Json) (owner : s.owner = .idle) :
    Step s (.notifyFails method params) s
  | arrive {server : Nat} {st : Stream} (octets : List UInt8)
      (stream : s.streams[server]? = some st) (opened : st.ended = false) :
    Step s (.arrive server octets)
      { s with streams := s.streams.set server { st with octets := st.octets ++ octets } }
  | hangUp {server : Nat} {st : Stream} (stream : s.streams[server]? = some st) :
    Step s (.hangUp server)
      { s with streams := s.streams.set server { st with ended := true } }
  | call {k : Nat} {call : Call} {action : CallAction} {c : Client} {stage : Stage}
      {parcels : List Parcel} (called : s.calls[k]? = some call)
      (step : CallStep k s.client call action c stage parcels) :
    Step s (.call k action)
      { s with
        client := c
        calls := s.calls.set k { call with stage := stage }
        parcels := s.parcels ++ parcels }
  | reader {server : Nat} {st st' : Stream} {action : ReaderAction} {c : Client}
      {parcels : List Parcel} (stream : s.streams[server]? = some st)
      (step : ReaderStep server s.client st action c st' parcels) :
    Step s (.reader server (s.client.tableOf server) action)
      { s with
        client := c, streams := s.streams.set server st', parcels := s.parcels ++ parcels }
  | owner {action : OwnerAction} {s' : Traffic} (step : OwnerStep s action s') :
    Step s (.owner action) s'

/-- Any number of steps, with their actions in order. -/
inductive Run : Traffic → List Action → Traffic → Prop
  | done (s : Traffic) : Run s [] s
  | step {s s' s'' : Traffic} {action : Action} {actions : List Action} (first : Step s action s')
      (rest : Run s' actions s'') : Run s (action :: actions) s''

theorem Run.append {s s' s'' : Traffic} {actions later : List Action} (h : Run s actions s')
    (h' : Run s' later s'') : Run s (actions ++ later) s'' := by
  induction h with
  | done => exact h'
  | step hfirst _ ih => exact .step hfirst (ih h')

end Traffic

end AnalyzerClient
