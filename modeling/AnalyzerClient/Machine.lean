import AnalyzerClient.Environment
import AnalyzerClient.Process

/-!
# The machine

The files and the environment that a program of the client sees.
-/

namespace AnalyzerClient

/-- Files, environment variables, and the number of the client's own process. -/
structure Machine where
  files : FileTree
  environment : Dict String
  processId : Nat

namespace Machine

/-- The environment of a process. -/
def environmentOf (m : Machine) (spec : ProcessSpec) : Dict String :=
  m.environment.overlay spec.environment

/-- The value that a process finds for an environment variable. -/
def valueOf? (m : Machine) (spec : ProcessSpec) (name : String) : Option String :=
  Environment.lookup? (m.environmentOf spec) name

/-- Whether a process can be started. Its program is looked for in the directories that are named
in its own environment. -/
def checkStart (m : Machine) (spec : ProcessSpec) : Except OsError Unit :=
  spec.check m.files (Path.directories ((m.environmentOf spec).get? "PATH"))

/-- The directory in which a process runs. -/
def directoryOf (m : Machine) (spec : ProcessSpec) : String :=
  match spec.directory with
  | none => m.files.directory
  | some directory => Path.resolve m.files.directory directory

end Machine

end AnalyzerClient
