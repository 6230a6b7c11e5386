import AnalyzerClient.CommandLine.Args
import AnalyzerClient.CommandLine.Console
import AnalyzerClient.Server.Version

/-!
# The program

What each command does, and what comes of a call of the program.
-/

namespace AnalyzerClient.CommandLine

open AnalyzerClient.Protocol (Request TextEdit)
open AnalyzerClient.Settings (Config Layer Priority Store)

/-- A command on a console, which can fail and break down. -/
abbrev CommandM := ExceptT Abort ConsoleM

namespace CommandM

/-- Runs a step of a session. -/
def ofSession {α : Type} (run : SessionM α) : CommandM α :=
  ExceptT.mk do return (← ConsoleM.liftExchange run.run).mapError .failure

/-- Runs a step that can fail with a runnable. -/
def ofLaunch {α : Type} (run : ConsoleM (Except LaunchError α)) : CommandM α :=
  ExceptT.mk do return (← run).mapError fun e => .failure (.ofLaunch e)

/-- Ends a command with a failure. -/
def fail {α : Type} (f : Failure) : CommandM α := throw (.failure f)

/-- Writes a line to the output. -/
def printLine (line : String) : CommandM Unit := ConsoleM.printLine line

/-- Writes a position to the output. -/
def printPosition (p : Protocol.Position) : CommandM Unit :=
  match p.shown with
  | .ok text => printLine text
  | .error cause => throw (.breakdown cause)

end CommandM

open CommandM

/-! ## Settings -/

/-- The value that an argument stands for: JSON if it is JSON, or else a text. -/
def settingValue (raw : String) : Json := ((Json.ofText raw).toOption).getD (.string raw)

/-- A setting as it is listed. -/
def settingLine : String × Json → String
  | (key, value) => key ++ " = " ++ value.compact

/-- Lists the settings. -/
def listSettings (s : Store) : CommandM Unit :=
  s.all.forM fun entry => printLine (settingLine entry)

/-- Changes a setting in the user's file or in that of the workspace. -/
def setSetting (s : Store) (root key raw : String) (user : Bool) : CommandM Unit := do
  let m ← ConsoleM.machine
  let (priority, path) ←
    if user then
      match configurationDirectory m with
      | some directory => pure (Priority.user, Settings.userFile directory)
      | none => fail ⟨"no user configuration directory", []⟩
    else pure (Priority.workspace, Settings.workspaceFile root)
  let (result, _, files) := s.write m.files key (settingValue raw) priority path
  modify fun c => { c with
    exchange := { c.exchange with machine := { c.exchange.machine with files := files } } }
  match result with
  | .ok () => return
  | .error e => fail (.ofSettings e)

/-! ## The version of the server -/

/-- Prints the version of the server, and checks that the required version is one. -/
def showVersion (config : Config) (required : Option String) : CommandM Unit := do
  match findServer (← ConsoleM.machine) config.server with
  | .error e => fail (.ofProtocol e)
  | .ok binary =>
    let run ← ConsoleM.runProgram (Server.versionSpec binary) []
    match Server.toldVersion binary run with
    | .error e => fail (.ofProtocol e)
    | .ok version =>
      printLine (version ++ " (" ++ binary ++ ")")
      match required with
      | none => return
      | some text =>
        match Server.Version.ofText? text with
        | some _ => return
        | none => fail ⟨"invalid version: " ++ text, []⟩

/-! ## Commands for the server -/

/-- The user's shell. -/
def userShell : ConsoleM Terminal.Shell :=
  return .ofVariable ((← ConsoleM.machine).environment.get? "SHELL")

/-- Opens the file at a cursor. -/
def openAt (cursor : Cursor) : CommandM DocumentPosition :=
  ofSession (SessionM.openFile cursor.file cursor.line cursor.column)

/-- Waits for the shell in the run terminal. -/
def waitForRun (shell : Terminal.Shell) (slot : Terminal.Slot) : CommandM Unit := do
  match slot.current with
  | none => return
  | some session =>
    match ← ConsoleM.runProgram (terminalSpec shell session.options) session.typed with
    | .error e => fail (.ofTerminal (.spawn shell.path e))
    | .ok run =>
      ConsoleM.writeOctets run.stdout
      ConsoleM.writeErrorOctets run.stderr
      match (session.wait run.status).1 with
      | .ok _ => return
      | .error e => fail (.ofTerminal e)

/-- Runs a runnable at a cursor, and waits until it has ended. -/
def launchAt (config : Config) (cursor : Cursor)
    (launch : Launcher → Workbench ConsoleM →
      StateT Terminal.Slot ConsoleM (Except LaunchError (Option Nat))) : CommandM Unit := do
  let document ← openAt cursor
  let shell ← userShell
  let (result, slot) ← (launch (.ofConfig shell config) (workbench shell document)).run .empty
  match result with
  | .error e => fail (.ofLaunch e)
  | .ok none => return
  | .ok (some _) => waitForRun shell slot

/-- A runnable as it is listed. -/
def runnableLine (r : Runnable) : String := r.label ++ "\t" ++ r.commandLine

/-- Runs a command for which the server was started. -/
def dispatch (config : Config) : ServerCommand → CommandM Unit
  | .runnables cursor => do
    let document ← openAt cursor
    let shell ← userShell
    let rs ← ofLaunch (Launcher.fetch (workbench shell document) document)
    rs.forM fun r => printLine (runnableLine r)
  | .run cursor => launchAt config cursor Launcher.runSingle
  | .test cursor => launchAt config cursor Launcher.runTest
  | .debug cursor => do
    let document ← openAt cursor
    let shell ← userShell
    let _ ← ofLaunch ((Launcher.ofConfig shell config).debugSingle (workbench shell document))
  | .syntaxTree file => do
    let document ← ofSession (SessionM.openFile file 1 1)
    printLine (← ofSession (SessionM.request (.syntaxTree document.uri none)))
  | .replaceStructurally file query parseOnly => do
    let document ← ofSession (SessionM.openFile file 1 1)
    let edit ← ofSession (SessionM.request
      (.replaceStructurally ⟨query, parseOnly, document.uri, document.position, []⟩))
    printLine edit.written.pretty
  | .packageGraph full => do printLine (← ofSession (SessionM.request (.packageGraph full)))
  | .matchingBrace cursor => do
    let document ← openAt cursor
    let positions ← ofSession (SessionM.request (.matchingBrace document.uri [document.position]))
    positions.forM printPosition
  | .joinLines cursor => do
    let document ← openAt cursor
    let range := ⟨document.position, document.position⟩
    let edits ← ofSession (SessionM.request (.joinLines document.uri [range]))
    printLine (TextEdit.writtenList edits).pretty
  | .reloadWorkspace => ofSession (SessionM.request .reloadWorkspace)

/-- Starts a server, runs a command, and stops the server whatever came of the command. When the
program breaks down there is nobody left to stop the server. -/
def withServer (root : String) (config : Config) (command : ServerCommand) : CommandM Unit := do
  ofSession (SessionM.connect root config.server config.trace)
  ExceptT.mk do
    match ← (dispatch config command).run with
    | .error (.breakdown cause) => return .error (.breakdown cause)
    | result =>
      ConsoleM.liftExchange ExchangeM.stop
      return result

/-! ## The whole program -/

/-- The workspace of a call: the present directory if none is given. -/
def rootOf (m : Machine) (i : Invocation) : String := i.workspace.getD m.files.directory

/-- The settings for a call. -/
def loadSettings (m : Machine) (i : Invocation) : Except Settings.Error Store :=
  Store.load m.files (configurationDirectory m) (some (rootOf m i))

/-- Runs a command. -/
def perform (i : Invocation) : CommandM Unit := do
  let m ← ConsoleM.machine
  let root := rootOf m i
  match loadSettings m i with
  | .error e => fail (.ofSettings e)
  | .ok s =>
    match i.command with
    | .serverVersion required => showVersion s.config required
    | .listSettings => listSettings s
    | .setSetting key raw user => setSetting s root key raw user
    | .server command => withServer root s.config command

/-- The name and the version of the program. -/
def versionLine : String := "webby-client " ++ Protocol.clientVersion

/-- How the program is called. -/
def usageText : String := "Usage: webby-client [OPTIONS] <COMMAND>\n"

/-- Runs the program with arguments, and gives the status with which it ends, unless it breaks
down. -/
def run (args : List String) : ConsoleM (Except Protocol.Position.Overflow Nat) := do
  match readArgs args with
  | .error .usage =>
    ConsoleM.printError usageText
    return .ok 2
  | .error .help =>
    ConsoleM.writeOctets (Text.Utf8.encode usageText)
    return .ok 0
  | .error .version =>
    ConsoleM.printLine versionLine
    return .ok 0
  | .ok i =>
    match ← (perform i).run with
    | .ok () => return .ok 0
    | .error (.failure f) =>
      ConsoleM.printError f.render
      return .ok 1
    | .error (.breakdown cause) => return .error cause

/-- The status of a program that broke down. -/
def brokenStatus : Nat := 101

/-- Runs the program with arguments, and gives the status with which it ends. What is reported of a
breakdown is not the program's. -/
def main (args : List String) : ConsoleM Nat := do
  match ← run args with
  | .ok status => return status
  | .error _ => return brokenStatus

/-- The files of the settings for a call. -/
def settingsFiles (m : Machine) (i : Invocation) : List String :=
  ((configurationDirectory m).map Settings.userFile).toList ++ [Settings.workspaceFile (rootOf m i)]

/-- The other files that a call can look at: where the server's binary can be, and the document. -/
def otherFiles (m : Machine) (i : Invocation) : List String :=
  let settings := match loadSettings m i with
    | .ok s => s.config.server
    | .error _ => ⟨none, []⟩
  let binaries := Server.candidates settings ((dataDirectory m).map Server.installDirectory)
    (m.environment.get? "PATH")
  let document := match i.command with
    | .server command => command.file?.toList
    | _ => []
  binaries ++ document

/-- The console before the program is called. -/
def Console.new (machine : Machine) (scripts : List ServerScript)
    (programs : ProcessSpec → List UInt8 → ProgramRun) (input : List UInt8) : Console where
  exchange := .new (.analyzer Server.serverName) scripts machine
  programs := programs
  input := input
  output := []
  errors := []
  runs := []

end AnalyzerClient.CommandLine
