import AnalyzerClient.Path
import AnalyzerClient.Text.Blank

/-!
# Shells

A shell runs a single command line, or reads commands from its input.
-/

namespace AnalyzerClient.Terminal

/-- A shell: its program, its name, and the flag in front of a single command line. -/
structure Shell where
  path : String
  name : String
  commandFlag : String
  deriving DecidableEq, Repr

namespace Shell

/-- The shell at a path. -/
def ofPath (path : String) : Shell :=
  let name := (Path.stem? path).getD "sh"
  ⟨path, name, if Text.eqIgnoringCase name "cmd" then "/C" else "-c"⟩

/-- The shell that every system has. -/
def standard : Shell := ofPath "/bin/sh"

/-- The shell that a user's environment names. -/
def ofVariable (value : Option String) : Shell := (value.map ofPath).getD standard

/-- The arguments with which a single command line is run. -/
def runArgs (s : Shell) (command : String) : List String := [s.commandFlag, command]

end Shell

end AnalyzerClient.Terminal
