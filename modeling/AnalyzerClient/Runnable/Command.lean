import AnalyzerClient.Runnable.Basic

/-!
# The commands of a runnable

What is typed to run a runnable, and what is run to build the executable that is debugged.
-/

namespace AnalyzerClient

/-- Makes the build tool report what it builds as lines of JSON. -/
def reportFlag : String := "--message-format=json"

/-- Makes the build tool build tests without running them. -/
def noRunFlag : String := "--no-run"

/-- What separates the arguments of the build tool from those of the executable. -/
def argsSeparator : String := "--"

namespace BuildTask

/-- The arguments of the executable behind the separator, the first of them in single quotes. -/
def executableTokens (t : BuildTask) : List String :=
  match t.executableArgs with
  | [] => []
  | first :: rest => argsSeparator :: ("'" ++ first ++ "'") :: rest

/-- What follows the program to run the task. -/
def runTokens (t : BuildTask) : List String := t.toolArgs ++ t.executableTokens

/-- Turns arguments that run something into those that build it. -/
def buildInstead : List String → List String
  | "run" :: rest => "build" :: rest
  | "test" :: rest =>
    if rest.contains noRunFlag then "test" :: rest else "test" :: rest ++ [noRunFlag]
  | args => args

/-- What follows the program to build what is debugged: nothing is put behind the first separator.
-/
def debugTokens (t : BuildTask) : List String :=
  buildInstead (t.runTokens.takeWhile (· != argsSeparator)) ++
    reportFlag :: t.runTokens.dropWhile (· != argsSeparator)

end BuildTask

namespace Task

/-- What follows the program to run a task. -/
def runTokens : Task → List String
  | .build task => task.runTokens
  | .shell task => task.args

/-- What follows the program to build what is debugged. -/
def debugTokens : Task → List String
  | .build task => task.debugTokens
  | .shell task => task.args ++ [reportFlag]

/-- The arguments of the debugged program, separated by spaces. -/
def programArgs : Task → String
  | .build task => " ".intercalate task.executableArgs
  | .shell _ => ""

end Task

namespace Runnable

/-- A program and what follows it, separated by spaces. -/
def joinTokens (program : String) (tokens : List String) : String :=
  " ".intercalate (program :: tokens)

/-- The command line that runs a runnable. -/
def commandLine (r : Runnable) : String := joinTokens r.program r.task.runTokens

/-- The command line that builds what is debugged. -/
def buildLine (r : Runnable) : String := joinTokens r.program r.task.debugTokens

end Runnable

end AnalyzerClient
