import AnalyzerClient.CommandLine.Session
import AnalyzerClient.Runnable.Select

/-!
# The console

The console stands for the editor: it prompts on the error stream, reads choices from the input, and
prints the calls of debuggers as commands of the editor.
-/

namespace AnalyzerClient.CommandLine

/-- The client with its server, its streams, and the programs it runs. -/
structure Console where
  exchange : Exchange
  /-- What other programs do with their input. -/
  programs : ProcessSpec → List UInt8 → ProgramRun
  input : List UInt8
  output : List UInt8
  errors : List UInt8
  /-- The programs that were run, with their input, the oldest first. -/
  runs : List (ProcessSpec × List UInt8)

/-- A run on a console; it has no result when it waits for ever. -/
abbrev ConsoleM := StateT Console Option

namespace ConsoleM

/-- Runs a step of the client and its server. -/
def liftExchange {α : Type} (run : ExchangeM α) : ConsoleM α := fun c => do
  let (a, x) ← run c.exchange
  return (a, { c with exchange := x })

/-- The machine. -/
def machine : ConsoleM Machine := return (← get).exchange.machine

/-- Writes octets to the output. -/
def writeOctets (octets : List UInt8) : ConsoleM Unit :=
  modify fun c => { c with output := c.output ++ octets }

/-- Writes a line to the output. -/
def printLine (line : String) : ConsoleM Unit := writeOctets (Text.Utf8.encode (line ++ "\n"))

/-- Writes octets to the error stream. -/
def writeErrorOctets (octets : List UInt8) : ConsoleM Unit :=
  modify fun c => { c with errors := c.errors ++ octets }

/-- Writes a text to the error stream. -/
def printError (text : String) : ConsoleM Unit := writeErrorOctets (Text.Utf8.encode text)

/-- Reads a line from the input, if there is one that is a text. -/
def readLine : ConsoleM (Option String) := do
  let c ← get
  match Text.Line.next? c.input with
  | none => return none
  | some (line, rest) =>
    set { c with input := rest }
    return Text.Utf8.decode? line

/-- Runs a program to its end, if it can be started. -/
def runProgram (spec : ProcessSpec) (input : List UInt8) :
    ConsoleM (Except OsError ProgramRun) := do
  match (← machine).checkStart spec with
  | .error e => return .error e
  | .ok () =>
    let c ← get
    set { c with runs := c.runs ++ [(spec, input)] }
    return .ok (c.programs spec input)

end ConsoleM

/-! ## The console as an editor -/

/-- The choice that a text stands for: a number from one to the number of items. -/
def parseChoice (text : String) (count : Nat) : Option Nat :=
  match Text.Numeral.readWord? (Text.Chars.trim text.toList) with
  | some n => if 1 ≤ n ∧ n ≤ count then some (n - 1) else none
  | none => none

/-- What the user sees when an item is to be picked. -/
def pickerText (title : String) (items : List String) : String :=
  let lines := (items.zip (List.range items.length)).map fun (item, n) =>
    "  " ++ Text.Numeral.render (n + 1) ++ ") " ++ item ++ "\n"
  title ++ ":\n" ++ "".intercalate lines ++ "> "

/-- How the shell of a terminal is started. -/
def terminalSpec (shell : Terminal.Shell) (options : Terminal.Options) : ProcessSpec :=
  ⟨shell.path, [], options.environment, some options.directory⟩

/-- The console as a workbench, with the document from which a command was given. -/
def workbench (shell : Terminal.Shell) (document : DocumentPosition) : Workbench ConsoleM where
  document := some document
  showStatus status := ConsoleM.printError (status ++ "\n")
  pick title items := do
    ConsoleM.printError (pickerText title items)
    return (← ConsoleM.readLine).bind (parseChoice · items.length)
  runnables params := ConsoleM.liftExchange (ExchangeM.request (.runnables params))
  openTerminal options := do
    match (← ConsoleM.machine).checkStart (terminalSpec shell options) with
    | .error e => return .fails shell.path e
    | .ok () => return .opens false
  build spec := ConsoleM.runProgram spec []
  callDebugger call := do
    ConsoleM.printLine call.commandLine
    return .ok ()

end AnalyzerClient.CommandLine
