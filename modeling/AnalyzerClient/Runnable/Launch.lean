import AnalyzerClient.Runnable.BuildOutput
import AnalyzerClient.Runnable.Command
import AnalyzerClient.Runnable.Workbench
import AnalyzerClient.Settings.Config
import AnalyzerClient.Terminal.Shell

/-!
# Running and debugging

A runnable is run by typing its command line into a new run terminal. It is debugged by building it,
looking for the executable in the build's report, and starting the debugger on it.
-/

namespace AnalyzerClient

/-- How runnables are launched. -/
structure Launcher where
  shell : Terminal.Shell
  /-- Make the run terminal ready for the user's input. -/
  startInsert : Bool
  debug : Settings.DebugSettings

namespace Launcher

variable {m : Type → Type} [Monad m]

/-- The launcher of a configuration. -/
def ofConfig (shell : Terminal.Shell) (config : Settings.Config) : Launcher :=
  ⟨shell, config.startInsert, config.debug⟩

/-- The name of the run terminal. -/
def terminalName : String := "webby"

/-- The terminal in which a runnable runs. -/
def terminalOptions (r : Runnable) : Terminal.Options := ⟨terminalName, r.directory, r.environment⟩

/-- Runs a runnable, and gives the number of its terminal. The terminal that was there before is
disposed of first. -/
def run (l : Launcher) (w : Workbench m) (r : Runnable) :
    StateT Terminal.Slot m (Except LaunchError Nat) := do
  modify Terminal.Slot.clear
  let opening ← w.openTerminal (terminalOptions r)
  let (created, slot) := (← get).create (terminalOptions r) opening
  set slot
  match created with
  | .error e => return .error (.terminal e)
  | .ok id =>
    let (typed, slot) := slot.typeCommand r.commandLine l.startInsert
    set slot
    match typed with
    | some (.error e) => return .error (.terminal e)
    | _ => return .ok id

/-- How a shell builds a runnable. -/
def buildSpec (shell : Terminal.Shell) (r : Runnable) : ProcessSpec :=
  ⟨shell.path, shell.runArgs r.buildLine, r.environment, some r.directory⟩

/-- Builds a runnable, shows the build's progress, and gives the build's report. -/
def build (w : Workbench m) (shell : Terminal.Shell) (r : Runnable) :
    m (Except LaunchError (List UInt8)) := do
  match ← w.build (buildSpec shell r) with
  | .error cause => return .error (.spawn r.buildLine cause)
  | .ok report =>
    (progressOf report.stderr).1.forM w.showStatus
    return .ok report.stdout

/-- The executable in a build's report. -/
def executable (filter : ArtifactFilter) (report : List UInt8) : Except LaunchError String :=
  match (Scan.findExecutable filter report).outcome with
  | .ok path => .ok path
  | .error .notFound => .error .executableNotFound
  | .error (.unreadable e) => .error (.unreadable e)

/-- Builds a runnable and starts the debugger on its executable. -/
def debugWith (l : Launcher) (w : Workbench m) (runtime : Debugger.Runtime) (r : Runnable) :
    m (Except LaunchError String) := do
  match ← build w l.shell r with
  | .error e => return .error e
  | .ok report =>
    match executable (.ofTask r.task) report with
    | .error e => return .error e
    | .ok path =>
      match ← w.callDebugger (runtime.call l.debug ⟨path, r.task.programArgs⟩) with
      | .error e => return .error (.debugger e)
      | .ok () => return .ok path

/-- Debugs a runnable, and gives its executable. Nothing is built when there is no such debugger. -/
def debugRunnable (l : Launcher) (w : Workbench m) (r : Runnable) :
    m (Except LaunchError String) :=
  match Debugger.ofSettings l.debug with
  | .error e => return .error (.debugger e)
  | .ok runtime => l.debugWith w runtime r

end Launcher

end AnalyzerClient
