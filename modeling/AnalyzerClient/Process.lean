import AnalyzerClient.FileTree
import AnalyzerClient.Text.Blank

/-!
# Starting processes

Whether a program can be started is seen from the files and from what is handed to it. The directory
is entered first, and the program is looked for from there; a program without a slash is looked for
in the directories of a search path.
-/

namespace AnalyzerClient

/-- A program as it is started: its arguments, what is set in its environment, and the directory it
runs in, which is that of the caller when none is given. -/
structure ProcessSpec where
  program : String
  args : List String := []
  environment : Dict String := []
  directory : Option String := none
  deriving DecidableEq, Repr, Inhabited

/-- What came of a process: what it wrote, and the number with which it exited. -/
structure ProgramRun where
  stdout : List UInt8 := []
  stderr : List UInt8 := []
  exitCode : Int := 0
  deriving DecidableEq, Repr, Inhabited

/-- The status of a process that exited: the low octet of the number. -/
def ProgramRun.status (run : ProgramRun) : Int := run.exitCode % 256

namespace ProcessSpec

/-- The texts that are handed to the system. -/
def texts (p : ProcessSpec) : List String :=
  p.program :: p.args ++ p.environment.keys ++ p.environment.map (·.2) ++ p.directory.toList

/-- Whether a text with a NUL is handed to the system. -/
def hasNul (p : ProcessSpec) : Bool := p.texts.any fun text => text.toList.contains (Char.ofNat 0)

/-- The files as they are seen from the directory that the program runs in. -/
def enter (p : ProcessSpec) (files : FileTree) : Except OsError FileTree :=
  match p.directory with
  | none => .ok files
  | some directory => do
    let place ← files.locate directory
    match files.node? (FileTree.pathOf place) with
    | some .directory => return { files with directory := FileTree.pathOf place }
    | _ => throw .notDirectory

/-- Whether a path leads to a program. -/
def checkProgram (files : FileTree) (path : String) : Except OsError Unit := do
  match ← files.find path with
  | .file _ true => return
  | _ => throw .permissionDenied

/-- Looks for a program in directories, but not in one whose path is too long. A program that may
not be started counts only when there is no other, and any failure but a missing program or
directory ends the search. -/
def search (files : FileTree) (program : String) (denied : Bool) : List String → Except OsError Unit
  | [] => .error (if denied then .permissionDenied else .notFound)
  | directory :: rest =>
    if FileTree.maxPath < directory.utf8ByteSize then search files program denied rest
    else
      match checkProgram files (Path.join directory program) with
      | .ok _ => .ok ()
      | .error .permissionDenied => search files program true rest
      | .error .notFound | .error .notDirectory => search files program denied rest
      | .error e => .error e

/-- Whether a process can be started; `searchPath` are the directories for programs without a
slash. -/
def check (p : ProcessSpec) (files : FileTree) (searchPath : List String) :
    Except OsError Unit := do
  if p.hasNul then throw .nul
  let files ← p.enter files
  if p.program.toList.contains '/' then checkProgram files p.program
  else if p.program.isEmpty then throw .notFound
  else if FileTree.maxName < p.program.utf8ByteSize then throw .nameTooLong
  else search files p.program false searchPath

end ProcessSpec

end AnalyzerClient
