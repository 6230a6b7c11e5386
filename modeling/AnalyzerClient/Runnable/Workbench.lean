import AnalyzerClient.Debugger.Runtime
import AnalyzerClient.Process
import AnalyzerClient.Protocol.Error
import AnalyzerClient.Protocol.Params
import AnalyzerClient.Runnable.Basic
import AnalyzerClient.Terminal.Slot

/-!
# What running and debugging need

A workbench stands for the editor, the language server and the system, as far as runnables are
chosen, run and debugged with them.
-/

namespace AnalyzerClient

/-- The place in a document from which a command was given. -/
structure DocumentPosition where
  uri : Uri
  languageId : String
  position : Protocol.Position
  deriving DecidableEq, Repr

/-- The editor, the language server and the system. -/
structure Workbench (m : Type → Type) where
  /-- The document from which the command was given. -/
  document : Option DocumentPosition
  /-- Shows a message to the user. -/
  showStatus : String → m Unit
  /-- Lets the user pick one of several items under a title. -/
  pick : String → List String → m (Option Nat)
  /-- Asks the server for runnables. -/
  runnables : Protocol.RunnablesParams → m (Except Protocol.Error (List Runnable))
  /-- Opens a terminal. -/
  openTerminal : Terminal.Options → m Terminal.Opening
  /-- Runs a build. -/
  build : ProcessSpec → m (Except OsError ProgramRun)
  /-- Hands a call to the editor. -/
  callDebugger : Debugger.Call → m (Except Debugger.Error Unit)

/-- What can go wrong with a runnable. -/
inductive LaunchError where
  /-- The build's report names no executable. -/
  | executableNotFound
  /-- The build could not be started. -/
  | spawn (command : String) (cause : OsError)
  /-- The build's report could not be read. -/
  | unreadable (e : Text.Utf8.Error)
  | protocol (e : Protocol.Error)
  | terminal (e : Terminal.Error)
  | debugger (e : Debugger.Error)
  deriving Repr

namespace LaunchError

/-- The wording of an error. -/
def message : LaunchError → String
  | .executableNotFound => "could not find executable"
  | .spawn command cause =>
    "failed to spawn `" ++ command ++ "`: " ++ cause.message
  | .unreadable e => e.message
  | .protocol e => e.message
  | .terminal e => e.message
  | .debugger e => e.message

/-- The failure behind an error, in words. -/
def cause? : LaunchError → Option String
  | .executableNotFound => none
  | .spawn _ cause => some cause.message
  | .unreadable _ => none
  | .protocol e => e.cause?
  | .terminal e => e.cause?
  | .debugger _ => none

end LaunchError

end AnalyzerClient
