import AnalyzerClient.Runnable.Select

/-!
# Rehearsals

A rehearsal is a workbench that answers from a plan and keeps a record of what it was asked.
-/

namespace AnalyzerClient.Rehearsal

/-- The answers of a rehearsal. -/
structure Plan where
  document : Option DocumentPosition
  /-- The item that the user picks. -/
  choice : Option Nat
  runnables : Except Protocol.Error (List Runnable)
  opening : Terminal.Opening
  build : ProcessSpec → Except OsError ProgramRun
  /-- Why the editor refuses calls, if it does. -/
  refusal : Option String

/-- What a rehearsal was asked, the oldest first. -/
structure Record where
  statuses : List String := []
  picks : List (String × List String) := []
  requests : List Protocol.RunnablesParams := []
  /-- The builds that could be started. -/
  builds : List ProcessSpec := []
  calls : List Debugger.Call := []

/-- The workbench of a plan. -/
def workbench (p : Plan) : Workbench (StateM Record) where
  document := p.document
  showStatus status := modify fun r => { r with statuses := r.statuses ++ [status] }
  pick title items := do
    modify fun r => { r with picks := r.picks ++ [(title, items)] }
    return p.choice
  runnables params := do
    modify fun r => { r with requests := r.requests ++ [params] }
    return p.runnables
  openTerminal _ := return p.opening
  build spec := do
    match p.build spec with
    | .error e => return .error e
    | .ok report =>
      modify fun r => { r with builds := r.builds ++ [spec] }
      return .ok report
  callDebugger call := do
    modify fun r => { r with calls := r.calls ++ [call] }
    match p.refusal with
    | some message => return .error (.host message)
    | none => return .ok ()

end AnalyzerClient.Rehearsal
