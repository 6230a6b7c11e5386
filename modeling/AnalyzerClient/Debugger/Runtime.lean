import AnalyzerClient.Json.Printer
import AnalyzerClient.Settings.Config
import AnalyzerClient.Text.Blank

/-!
# Debuggers

The debuggers that the client can hand an executable to, and the call that each of them needs.
-/

namespace AnalyzerClient.Debugger

open AnalyzerClient.Settings (DebugSettings)

/-- A debugger. -/
inductive Runtime where
  | termdebug
  | vimspector
  | nvimDap
  deriving DecidableEq, Repr

/-- The name of a debugger in the settings. -/
def Runtime.name : Runtime → String
  | .termdebug => "termdebug"
  | .vimspector => "vimspector"
  | .nvimDap => "nvim-dap"

/-- The debugger with a name. -/
def Runtime.ofName? : String → Option Runtime
  | "termdebug" => some .termdebug
  | "vimspector" => some .vimspector
  | "nvim-dap" => some .nvimDap
  | _ => none

/-- What can go wrong with a debugger. -/
inductive Error where
  /-- The configured name is the name of no debugger. -/
  | invalidRuntime (name : String)
  /-- The editor refused the call. -/
  | host (message : String)
  deriving DecidableEq, Repr

/-- The wording of an error. -/
def Error.message : Error → String
  | .invalidRuntime _ => "invalid debug runtime"
  | .host message => "debugger call failed: " ++ message

/-- What is debugged: an executable and its arguments, separated by spaces. -/
structure Target where
  executable : String
  args : String
  deriving DecidableEq, Repr

/-- A call of the editor. -/
inductive Call where
  /-- An editor command line. -/
  | command (line : String)
  /-- An editor function with its arguments. -/
  | function (name : String) (args : List Json)
  deriving Repr

/-- A text between double quotes. -/
def quoted (cs : List Char) : List Char := '"' :: cs ++ ['"']

/-- The words of an argument text, quoted and separated by commas. -/
def quotedWords (args : List Char) : List Char :=
  List.intercalate [','] ((Text.Chars.words args).map quoted)

/-- Replaces every `$exe` and `$args` of a template in one pass from left to right, so that what is
put in is never looked at again. -/
def substitute (exe args : List Char) : List Char → List Char
  | [] => []
  | '$' :: 'e' :: 'x' :: 'e' :: rest => exe ++ substitute exe args rest
  | '$' :: 'a' :: 'r' :: 'g' :: 's' :: rest => args ++ substitute exe args rest
  | c :: rest => c :: substitute exe args rest

/-- A template with the quoted executable for `$exe` and the quoted arguments for `$args`. -/
def renderTemplate (template : String) (target : Target) : String :=
  String.ofList (substitute (quoted target.executable.toList) (quotedWords target.args.toList)
    template.toList)

/-- The configured debugger. -/
def ofSettings (settings : DebugSettings) : Except Error Runtime :=
  match Runtime.ofName? settings.runtime with
  | some runtime => .ok runtime
  | none => .error (.invalidRuntime settings.runtime)

/-- The call that starts a debugger on a target. -/
def Runtime.call (runtime : Runtime) (settings : DebugSettings) (target : Target) : Call :=
  match runtime with
  | .termdebug => .command ("TermdebugCommand " ++ target.executable ++ " " ++ target.args)
  | .vimspector =>
    .function "vimspector#LaunchWithSettings" [.mkObject [
      ("configuration", .string settings.vimspectorConfiguration),
      ("Executable", .string target.executable),
      ("Args", .string target.args)]]
  | .nvimDap => .command (renderTemplate settings.nvimDapTemplate target)

/-- A call as an editor command line. -/
def Call.commandLine : Call → String
  | .command line => ":" ++ line
  | .function name args =>
    ":call " ++ name ++ "(" ++ ", ".intercalate (args.map Json.compact) ++ ")"

end AnalyzerClient.Debugger
