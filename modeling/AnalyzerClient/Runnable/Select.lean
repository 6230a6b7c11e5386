import AnalyzerClient.Runnable.Launch
import AnalyzerClient.Server.Launch

/-!
# Choosing a runnable

The runnables at a place are fetched from the server, if the document is one that the server is for.
The user picks one of them, or the first test is taken, and then it is run or debugged.
-/

namespace AnalyzerClient

namespace Launcher

variable {m : Type → Type} [Monad m]

/-- What the user sees while runnables are fetched. -/
def fetchStatus : String := "Fetching runnables..."

/-- The title of the picker. -/
def pickTitle : String := "Select runnable"

/-- The question for the runnables at a place. -/
def paramsAt (d : DocumentPosition) : Protocol.RunnablesParams := ⟨d.uri, some d.position⟩

/-- Fetches the runnables at a place. -/
def fetch (w : Workbench m) (d : DocumentPosition) : m (Except LaunchError (List Runnable)) := do
  if d.languageId != Server.languageId then return .ok []
  w.showStatus fetchStatus
  return (← w.runnables (paramsAt d)).mapError .protocol

/-- Fetches the runnables at the place from which the command was given. -/
def fetchHere (w : Workbench m) : m (Except LaunchError (List Runnable)) :=
  match w.document with
  | none => return .ok []
  | some d => fetch w d

/-- Lets the user pick a runnable, if there is any. -/
def pick (w : Workbench m) (rs : List Runnable) : m (Option Runnable) := do
  if rs.isEmpty then return none
  return (← w.pick pickTitle (rs.map (·.label))).bind (rs[·]?)

/-- Runs what was chosen, if anything was. -/
def runChosen (l : Launcher) (w : Workbench m) (chosen : Option Runnable) :
    StateT Terminal.Slot m (Except LaunchError (Option Nat)) := do
  match chosen with
  | none => return .ok none
  | some r => return (← l.run w r).map some

/-- Debugs what was chosen, if anything was. -/
def debugChosen (l : Launcher) (w : Workbench m) (chosen : Option Runnable) :
    m (Except LaunchError (Option String)) := do
  match chosen with
  | none => return .ok none
  | some r => return (← l.debugRunnable w r).map some

/-- Lets the user pick a runnable and runs it. -/
def runSingle (l : Launcher) (w : Workbench m) :
    StateT Terminal.Slot m (Except LaunchError (Option Nat)) := do
  match ← (fetchHere w : m _) with
  | .error e => return .error e
  | .ok rs => l.runChosen w (← (pick w rs : m _))

/-- Runs the first test. -/
def runTest (l : Launcher) (w : Workbench m) :
    StateT Terminal.Slot m (Except LaunchError (Option Nat)) := do
  match ← (fetchHere w : m _) with
  | .error e => return .error e
  | .ok rs => l.runChosen w (Runnable.firstTest? rs)

/-- Lets the user pick a runnable and debugs it. -/
def debugSingle (l : Launcher) (w : Workbench m) : m (Except LaunchError (Option String)) := do
  match ← fetchHere w with
  | .error e => return .error e
  | .ok rs => l.debugChosen w (← pick w rs)

end Launcher

end AnalyzerClient
