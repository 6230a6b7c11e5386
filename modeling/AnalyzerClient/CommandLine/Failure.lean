import AnalyzerClient.Runnable.Workbench
import AnalyzerClient.Settings.Layer

/-!
# Failures of a command

A failure is told with the failures behind it, the outermost first. A command can also end because
the program breaks down, and then the user is told nothing of the command.
-/

namespace AnalyzerClient.CommandLine

/-- What went wrong, and what was behind it. -/
structure Failure where
  message : String
  causes : List String := []
  deriving DecidableEq, Repr

namespace Failure

/-- A failure of the client or of its server. -/
def ofProtocol (e : Protocol.Error) : Failure := ⟨e.message, e.cause?.toList⟩

/-- A failure with settings. -/
def ofSettings (e : Settings.Error) : Failure := ⟨e.message, e.cause?.toList⟩

/-- A failure with a runnable. -/
def ofLaunch (e : LaunchError) : Failure := ⟨e.message, e.cause?.toList⟩

/-- A failure with a terminal. -/
def ofTerminal (e : Terminal.Error) : Failure := ⟨e.message, e.cause?.toList⟩

/-- A failure of the system behind something that went wrong. -/
def ofSystem (message : String) (e : OsError) : Failure := ⟨message, [e.message]⟩

/-- A failure behind something that went wrong. -/
def within (f : Failure) (message : String) : Failure := ⟨message, f.message :: f.causes⟩

/-- The failure and those behind it. -/
def chain (f : Failure) : List String := f.message :: f.causes

/-- A text whose first line begins with a mark, and whose other lines are indented. -/
def indent (mark margin : String) (text : String) : String :=
  mark ++ ("\n" ++ margin).intercalate (text.splitOn "\n")

/-- The place of a cause in the list of causes, at the end of six columns. -/
def causeMark (n : Nat) : String :=
  let digits := Text.Numeral.render n
  String.ofList (List.replicate (5 - digits.length) ' ') ++ digits ++ ": "

/-- The causes, one below the other; they are numbered if there are several. -/
def renderCauses : List String → String
  | [] => ""
  | [cause] => "\n\nCaused by:\n" ++ indent "    " "    " cause
  | causes =>
    let lines := (causes.zip (List.range causes.length)).map fun (cause, n) =>
      indent (causeMark n) "       " cause
    "\n\nCaused by:\n" ++ "\n".intercalate lines

/-- What the user is told. -/
def render (f : Failure) : String := "Error: " ++ f.message ++ renderCauses f.causes ++ "\n"

end Failure

/-- Why a command ends before it is done. -/
inductive Abort where
  /-- The command fails, and the user is told why. -/
  | failure (f : Failure)
  /-- The program breaks down at a sum that has no 32 bits. -/
  | breakdown (cause : Protocol.Position.Overflow)
  deriving DecidableEq, Repr

end AnalyzerClient.CommandLine
