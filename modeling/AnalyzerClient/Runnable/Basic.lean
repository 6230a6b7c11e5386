import AnalyzerClient.Protocol.Location

/-!
# Runnables

A runnable is something that the language server offers to run: a task of the build tool, or a
program with its arguments.
-/

namespace AnalyzerClient

/-- The task of the build tool that a runnable stands for. -/
structure BuildTask where
  workspaceRoot : Option String
  /-- The arguments of the executable that is built. -/
  executableArgs : List String
  /-- The arguments of the build tool. -/
  toolArgs : List String
  /-- The program to use instead of the build tool. -/
  overrideTool : Option String
  environment : Option (Dict String)
  directory : String
  deriving DecidableEq, Repr

/-- The program that a runnable stands for. -/
structure ShellTask where
  program : String
  args : List String
  environment : Option (Dict String)
  directory : String
  deriving DecidableEq, Repr

/-- What a runnable runs. -/
inductive Task where
  | build (task : BuildTask)
  | shell (task : ShellTask)
  deriving DecidableEq, Repr

/-- Something to run, with the label that the user sees and the place that it belongs to. -/
structure Runnable where
  label : String
  location : Option Protocol.LocationLink
  task : Task
  deriving DecidableEq, Repr

namespace Runnable

/-- The name of the build tool. -/
def buildTool : String := "webby"

/-- The directory to run in. -/
def directory (r : Runnable) : String :=
  match r.task with
  | .build task => task.directory
  | .shell task => task.directory

/-- The environment variables to set. -/
def environment (r : Runnable) : Dict String :=
  match r.task with
  | .build task => task.environment.getD []
  | .shell task => task.environment.getD []

/-- The program to run. -/
def program (r : Runnable) : String :=
  match r.task with
  | .build task => task.overrideTool.getD buildTool
  | .shell task => task.program

/-- What the labels of tests begin with. -/
def testMark : String := "test "

/-- Whether a runnable is a test. -/
def isTest (r : Runnable) : Bool := Text.startsWith testMark r.label

/-- The first test of a list. -/
def firstTest? (rs : List Runnable) : Option Runnable := rs.find? isTest

end Runnable

end AnalyzerClient
