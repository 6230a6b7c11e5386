import AnalyzerClient.Client.Exchange

/-!
# Starting and stopping servers
-/

namespace AnalyzerClient

open AnalyzerClient.Protocol (Error Request)

namespace Exchange

/-- The process of a server with a workspace. -/
def serverSpec (config : Server.Config) (root : String) : ProcessSpec :=
  ⟨config.command, config.args, config.env, some root⟩

/-- Ends the process of a server from outside. -/
def kill (x : Exchange) (server : Nat) : Exchange :=
  x.updateLink server fun l => { l with peer := l.peer.kill }

/-- Ends the process that the client holds. -/
def killHeld (x : Exchange) : Exchange :=
  match x.client.process with
  | none => x
  | some server => x.kill server

/-- The servers when the client lets go of the process that it holds. -/
def dismissed (x : Exchange) : List Link :=
  match x.client.process with
  | none => x.links
  | some server => x.links.modify server fun l => { l with peer := l.peer.dismiss }

/-- Starts the process of a server. The one that the client held before is ended, and reads nothing
more. Its reader finds the end of its output at a time of its own, for which there is none here,
where the client and its servers take turns. -/
def spawn (x : Exchange) (root : String) : Except Error Unit × Exchange :=
  let spec := serverSpec x.client.config root
  match x.machine.checkStart spec with
  | .error cause => (.error (.spawn x.client.config.command cause), x)
  | .ok () =>
    let link : Link := ⟨.started spec (x.scripts.head?.getD []), true⟩
    (.ok (), { x with
      client := x.client.attach
      links := x.dismissed ++ [link]
      scripts := x.scripts.drop 1 })

/-- Stops all readers. -/
def stopAllReaders (x : Exchange) : Exchange :=
  { x with links := x.links.map fun l => { l with reading := false } }

end Exchange

namespace ExchangeM

/-- How a server is called that does not tell its version. -/
def unknownVersion : String := "(unknown version)"

/-- Introduces the client to the server. -/
def introduce (root : String) : ExchangeM (Except Error Unit) := do
  let x ← get
  let config := x.client.config
  match ← request (.connect x.machine.processId (Uri.ofPath? root) config.initializationOptions
      config.trace) with
  | .error e => return .error e
  | .ok info =>
    match info with
    | some info =>
      updateClient (·.note ("Connected to " ++ info.name ++ " " ++
        info.version.getD unknownVersion))
    | none => pure ()
    notify Protocol.initializedMethod (.object [])

/-- Starts the server for a workspace. -/
def start (root : String) : ExchangeM (Except Error Unit) := do
  updateClient (·.beginStart)
  let (spawned, x) := (← get).spawn root
  set x
  match spawned with
  | .error e =>
    updateClient (·.setState .failed)
    return .error e
  | .ok () =>
    match ← introduce root with
    | .error e =>
      updateClient (·.setState .failed)
      return .error e
    | .ok () =>
      match (← get).client.markRunning with
      | .error e => return .error e
      | .ok client =>
        updateClient fun _ => client.emit (.started client.config.name)
        return .ok ()

/-- Asks the server to shut down, and tells it to exit. -/
def sayGoodbye : ExchangeM Unit := do
  match ← request .shutdown with
  | .error e => updateClient (·.note ("Shutdown request failed: " ++ e.message))
  | .ok () => pure ()
  let _ ← notify Protocol.exitMethod .null

/-- Stops the server. -/
def stop : ExchangeM Unit := do
  updateClient (·.setState .shuttingDown)
  if (← get).client.transport.isSome then sayGoodbye
  modify fun x => x.killHeld.stopAllReaders
  updateClient fun c => (c.detach.setState .stopped).emit (.stopped c.config.name)

end ExchangeM

end AnalyzerClient
