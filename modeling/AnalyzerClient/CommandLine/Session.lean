import AnalyzerClient.Client.Lifecycle
import AnalyzerClient.CommandLine.Failure

/-!
# Sessions

A session is a server that was started for a command. It ends when the command has ended, however it
ended.
-/

namespace AnalyzerClient.CommandLine

open AnalyzerClient.Settings (ServerSettings TraceLevel)

/-- The directory for the user's configurations. -/
def configurationDirectory (m : Machine) : Option String :=
  match (m.environment.get? "XDG_CONFIG_HOME").filter Path.isAbsolute with
  | some directory => some directory
  | none => (m.environment.get? "HOME").map (Path.join · ".config")

/-- The directory for the user's data. -/
def dataDirectory (m : Machine) : Option String :=
  match (m.environment.get? "XDG_DATA_HOME").filter Path.isAbsolute with
  | some directory => some directory
  | none => (m.environment.get? "HOME").map fun home => Path.join home ".local/share"

/-- The server's binary on a machine. -/
def findServer (m : Machine) (settings : ServerSettings) : Except Protocol.Error String :=
  Server.resolve m.files.isFile settings ((dataDirectory m).map Server.installDirectory)
    (m.environment.get? "PATH")

/-- A run of a session, which can fail. -/
abbrev SessionM := ExceptT Failure ExchangeM

namespace SessionM

/-- Runs a step of the client. -/
def ofExchange {α : Type} (run : ExchangeM (Except Protocol.Error α)) : SessionM α :=
  ExceptT.mk do return (← run).mapError .ofProtocol

/-- Starts the server for a workspace. -/
def connect (root : String) (settings : ServerSettings) (trace : TraceLevel) : SessionM Unit := do
  let x ← get
  match findServer x.machine settings with
  | .error e => throw (.ofProtocol e)
  | .ok command =>
    modify fun x => { x with client := .new (.ofSettings command settings trace) }
    match ← ExchangeM.start root with
    | .error e =>
      throw (Failure.within (.ofProtocol e) ("failed to start language server in " ++ root))
    | .ok () => return

/-- Opens a document, and gives the place that a cursor names in it. Only documents that the server
is for are opened on the server. -/
def openFile (file : String) (line column : Nat) : SessionM DocumentPosition := do
  let x ← get
  let path := Path.join x.machine.files.directory file
  let some uri := Uri.ofPath? path | throw ⟨"not a file path: " ++ path, []⟩
  match x.machine.files.readText path with
  | .error e => throw (.ofSystem ("failed to read " ++ path) e)
  | .ok text =>
    let language := (x.client.config.languageOf? path).getD Server.otherLanguage
    if language == Server.languageId then ofExchange (ExchangeM.openDocument uri 1 text)
    return ⟨uri, language, .ofCursor line column⟩

/-- Sends a request. -/
def request {α : Type} (r : Protocol.Request α) : SessionM α := ofExchange (ExchangeM.request r)

end SessionM

end AnalyzerClient.CommandLine
