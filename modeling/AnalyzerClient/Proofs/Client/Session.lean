import AnalyzerClient.Client.Lifecycle
import AnalyzerClient.Proofs.Client.Prompt
import AnalyzerClient.Proofs.Client.Tidings

/-!
# The session of one server

What a server gets from a client that starts it (`Exchange.Starts`), and what it gets from a client
that stops it (`Exchange.Stops`).
-/

namespace AnalyzerClient

open AnalyzerClient.Protocol (Error Message Request ServerInfo)
open Protocol.Message (isCall isCall_requestJson isExit_requestJson)

/-! ## The calls of every session -/

/-- The first request to a server. -/
def firstRequest (config : Server.Config) (machine : Machine) (root : String) :
    Request (Option ServerInfo) :=
  .connect machine.processId (Uri.ofPath? root) config.initializationOptions config.trace

/-- The first call of a session. -/
def initializeCall (config : Server.Config) (machine : Machine) (root : String) : Json :=
  let r := firstRequest config machine root
  Message.requestJson 1 r.method r.params

/-- The call behind the answer to the first one. -/
def initializedCall : Json := Message.notificationJson Protocol.initializedMethod (.object [])

/-- The last request to a server. -/
def shutdownCall (n : Int) : Json :=
  Message.requestJson n Request.shutdown.method Request.shutdown.params

/-- The last call of a session. -/
def exitCall : Json := Message.notificationJson Protocol.exitMethod .null

namespace Exchange

/-- The calls that the servers got, those of the first server first. -/
def calls (x : Exchange) : List (List Json) := x.links.map (·.peer.received.filter isCall)

variable {x x₁ : Exchange} {config : Server.Config} {machine : Machine} {n : Int}
  {calls : List Json} {root : String}

/-- The exchange when the process of the first server was started. -/
def attached (config : Server.Config) (scripts : List ServerScript) (machine : Machine)
    (root : String) : Exchange where
  client := (Client.new config).beginStart.attach
  links := [⟨.started (serverSpec config root) (scripts.head?.getD []), true⟩]
  scripts := scripts.drop 1
  machine := machine

variable {scripts : List ServerScript}

/-- How a start goes on when the process of the server was started. -/
inductive Starts (config : Server.Config) (machine : Machine) (root : String) (x : Exchange) :
    Option (Except Error Unit × Exchange) → Prop
  /-- The server neither answers the first request nor ends. -/
  | waits : ExchangeM.request (firstRequest config machine root) x = none →
      Starts config machine root x none
  | refused {e : Error} {x₁ x₂ : Exchange} :
      ExchangeM.request (firstRequest config machine root) x = some (.error e, x₁) →
      x₂.Idle config machine 2 [initializeCall config machine root] →
      Starts config machine root x (some (.error e, x₂))
  /-- The server goes away behind its answer. -/
  | lost {info : Option ServerInfo} {x₁ x₂ : Exchange} :
      ExchangeM.request (firstRequest config machine root) x = some (.ok info, x₁) →
      x₂.Idle config machine 2 [initializeCall config machine root, initializedCall] →
      Starts config machine root x (some (.error .notRunning, x₂))
  | started {info : Option ServerInfo} {x₁ x₂ : Exchange} :
      ExchangeM.request (firstRequest config machine root) x = some (.ok info, x₁) →
      x₂.Idle config machine 2 [initializeCall config machine root, initializedCall] →
      (x.Prompt → x₂.Prompt) → Starts config machine root x (some (.ok (), x₂))

/-- Writes down how a server introduced itself. -/
def acknowledge (info : Option ServerInfo) (x : Exchange) : Exchange :=
  match info with
  | some info => x.updateClient (·.note (Traffic.greeting info))
  | none => x

theorem Idle.acknowledge (h : x.Idle config machine n calls) (info : Option ServerInfo) :
    (acknowledge info x).Idle config machine n calls := by
  cases info with
  | none => exact h
  | some info => exact h.steady (Client.steady_note ..)

theorem Prompt.acknowledge (h : x.Prompt) (info : Option ServerInfo) :
    (acknowledge info x).Prompt := by
  cases info with
  | none => exact h
  | some info => exact h.steady (Client.steady_note ..) rfl

/-- How a server is stopped that got `calls`. -/
inductive Stops (n : Int) (calls : List Json) (x : Exchange) : Option (Unit × Exchange) → Prop
  /-- The server neither answers the last request nor ends. -/
  | waits : ExchangeM.request Request.shutdown (x.updateClient (·.setState .shuttingDown)) = none →
      Stops n calls x none
  /-- The reader has ended, so that there is nobody to ask. -/
  | unasked {x' : Exchange} : (∀ link ∈ x.links, link.reading = false) →
      x'.calls = [calls ++ [exitCall]] → Stops n calls x (some ((), x'))
  | asked {x' : Exchange} : x'.calls = [calls ++ [shutdownCall n, exitCall]] →
      Stops n calls x (some ((), x'))

end Exchange

end AnalyzerClient
