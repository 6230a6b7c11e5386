import AnalyzerClient.CommandLine.Program

/-!
# The program as it is called

The files and variables that a command can look at are read, the command is run on them, and what it
wrote is written. No processes are started: a server's binary counts as a file that may not be run.
-/

namespace AnalyzerClient.Shell

open AnalyzerClient.CommandLine

/-- Puts the file at a path into the tree, if there is one. -/
def loadFile (t : FileTree) (path : String) : IO FileTree := do
  try
    let content ← IO.FS.readBinFile path
    return t.place path (.file content.toList false)
  catch _ => return t

/-- Puts the files at some paths into the tree. -/
def loadFiles (t : FileTree) (paths : List String) : IO FileTree := paths.foldlM loadFile t

/-- The variables that the program looks at. -/
def variableNames : List String := ["HOME", "XDG_CONFIG_HOME", "XDG_DATA_HOME", "PATH", "SHELL"]

/-- Reads the variables. -/
def loadVariables : IO (Dict String) := do
  let pairs ← variableNames.filterMapM fun name => do
    return (← IO.getEnv name).map (name, ·)
  return Dict.ofList pairs

/-- The machine with the files that a command can look at. -/
def loadMachine (i : Invocation) : IO Machine := do
  let directory := (← IO.currentDir).toString
  let environment ← loadVariables
  let empty : FileTree := ⟨[], directory⟩
  let m : Machine := ⟨empty.place directory .directory, environment, 0⟩
  let files ← loadFiles m.files (settingsFiles m i)
  let m := { m with files := files }
  let files ← loadFiles m.files (otherFiles m i)
  return { m with files := files }

/-- Writes a file, with the directories above it. -/
def storeFile (path : String) (content : List UInt8) : IO Unit := do
  match Path.parent? path with
  | some parent => IO.FS.createDirAll parent
  | none => return
  IO.FS.writeBinFile path content.toByteArray

/-- Writes the files that differ from those before. -/
def storeFiles (before after : FileTree) : IO Unit :=
  after.nodes.forM fun (path, node) =>
    match node with
    | .directory => return
    | .file content _ =>
      if (before.read path).toOption == some content then return else storeFile path content

end AnalyzerClient.Shell

section

open AnalyzerClient AnalyzerClient.CommandLine AnalyzerClient.Shell

/-- Runs the program. -/
def main (args : List String) : IO UInt32 := do
  let machine ← match readArgs args with
    | .ok i => loadMachine i
    | .error _ => pure ⟨.empty, [], 0⟩
  match CommandLine.main args (.new machine [] (fun _ _ => {}) []) with
  | none => return 1
  | some (status, console) =>
    storeFiles machine.files console.exchange.machine.files
    (← IO.getStdout).write console.output.toByteArray
    (← IO.getStderr).write console.errors.toByteArray
    return status.toUInt32

end
