import AnalyzerClient.Text.Numeral
import AnalyzerClient.Word

/-!
# Arguments

The arguments of the program are read from left to right. Options stand anywhere, those for the
whole program behind the name of a command too; what stands behind `--` is never an option. Whatever
is wrong with the arguments, only the first fault counts.
-/

namespace AnalyzerClient.CommandLine

/-- A place in a file, which counts lines and columns from one. -/
structure Cursor where
  file : String
  line : Nat
  column : Nat
  deriving DecidableEq, Repr

/-- A command for which a server is started. -/
inductive ServerCommand where
  | runnables (cursor : Cursor)
  | run (cursor : Cursor)
  | test (cursor : Cursor)
  | debug (cursor : Cursor)
  | syntaxTree (file : String)
  | replaceStructurally (file query : String) (parseOnly : Bool)
  | packageGraph (full : Bool)
  | matchingBrace (cursor : Cursor)
  | joinLines (cursor : Cursor)
  | reloadWorkspace
  deriving DecidableEq, Repr

/-- The file that a command names. -/
def ServerCommand.file? : ServerCommand → Option String
  | .runnables cursor | .run cursor | .test cursor | .debug cursor | .matchingBrace cursor
  | .joinLines cursor => some cursor.file
  | .syntaxTree file => some file
  | .replaceStructurally file _ _ => some file
  | .packageGraph _ | .reloadWorkspace => none

/-- A command of the program. -/
inductive Command where
  | serverVersion (required : Option String)
  | listSettings
  | setSetting (key value : String) (user : Bool)
  | server (command : ServerCommand)
  deriving DecidableEq, Repr

/-- Why no command is run. -/
inductive Stop where
  /-- The arguments are wrong. -/
  | usage
  /-- The user asked for help. -/
  | help
  /-- The user asked for the version. -/
  | version
  deriving DecidableEq, Repr

/-! ## Options -/

/-- What an option does. -/
inductive OptionKind where
  /-- It is there or not, and stands at most once. -/
  | flag
  /-- It may stand several times. -/
  | counter
  /-- It has a value, and stands at most once. -/
  | text
  /-- It has a path as its value, which is not empty, and stands at most once. -/
  | path
  | help
  | version
  deriving DecidableEq, Repr

/-- An option with its long name and its letter. -/
structure OptionSpec where
  name : String
  letter : Option Char
  kind : OptionKind

/-- The options that are read with every command. -/
def commonOptions : List OptionSpec :=
  [⟨"workspace", some 'w', .path⟩, ⟨"verbose", some 'v', .counter⟩, ⟨"help", some 'h', .help⟩]

/-- What was read of the options and the other arguments. -/
structure Reading where
  flags : List String := []
  values : List (String × String) := []
  positionals : List String := []

namespace Reading

/-- Takes note of an option without a value. -/
def addFlag (r : Reading) (o : OptionSpec) : Except Stop Reading :=
  match o.kind with
  | .flag =>
    if r.flags.contains o.name then .error .usage
    else .ok { r with flags := o.name :: r.flags }
  | .counter => .ok r
  | .help => .error .help
  | .version => .error .version
  | .text | .path => .error .usage

/-- Takes note of an option with a value. -/
def addValue (r : Reading) (o : OptionSpec) (value : String) : Except Stop Reading :=
  if (r.values.lookup o.name).isSome || (o.kind == .path && value.isEmpty) then .error .usage
  else .ok { r with values := (o.name, value) :: r.values }

/-- Whether an option has a value. -/
def takesValue (o : OptionSpec) : Bool := o.kind == .text || o.kind == .path

/-- Whether an argument can be the value of the option in front of it. -/
def isValue (arg : String) : Bool := arg == "-" || arg.toList.head? != some '-'

/-- Reads the letters behind a single dash. The option that awaits its value is given back. -/
def readLetters (options : List OptionSpec) (r : Reading) :
    List Char → Except Stop (Reading × Option OptionSpec)
  | [] => .ok (r, none)
  | c :: cs =>
    match options.find? (·.letter == some c) with
    | none => .error .usage
    | some o =>
      if takesValue o then
        match cs with
        | [] => .ok (r, some o)
        | '=' :: value => (r.addValue o (String.ofList value)).map (·, none)
        | value => (r.addValue o (String.ofList value)).map (·, none)
      else do readLetters options (← r.addFlag o) cs

/-- Reads what stands behind two dashes. -/
def readLong (options : List OptionSpec) (r : Reading) (cs : List Char) :
    Except Stop (Reading × Option OptionSpec) :=
  let name := String.ofList (cs.takeWhile (· != '='))
  match options.find? (·.name == name), cs.dropWhile (· != '=') with
  | none, _ => .error .usage
  | some o, [] => if takesValue o then .ok (r, some o) else (r.addFlag o).map (·, none)
  | some o, _ :: value =>
    if takesValue o then (r.addValue o (String.ofList value)).map (·, none) else .error .usage

/-- Reads arguments up to the first one that is no option, if `stopEarly`, or else all of them.
`accept` says whether one more argument that is no option can be taken, and whether it is in order.
-/
def read (options : List OptionSpec) (stopEarly : Bool) (accept : Nat → String → Bool) :
    (pending : Option OptionSpec) → Reading → List String → Except Stop (Reading × List String)
  | some _, _, [] => .error .usage
  | none, r, [] => .ok (r, [])
  | some o, r, arg :: rest =>
    if isValue arg then do read options stopEarly accept none (← r.addValue o arg) rest
    else .error .usage
  | none, r, arg :: rest =>
    if isValue arg then
      if stopEarly then .ok (r, arg :: rest)
      else if accept r.positionals.length arg then
        read options stopEarly accept none { r with positionals := r.positionals ++ [arg] } rest
      else .error .usage
    else
      match arg.toList with
      | ['-', '-'] => do
        if stopEarly && !rest.isEmpty then throw .usage
        let positionals := r.positionals ++ rest
        let places := List.range rest.length
        if (rest.zip places).all fun (arg, n) => accept (r.positionals.length + n) arg then
          return ({ r with positionals := positionals }, [])
        else throw .usage
      | '-' :: '-' :: cs => do
        let (r, pending) ← readLong options r cs
        read options stopEarly accept pending r rest
      | cs => do
        let (r, pending) ← readLetters options r (cs.drop 1)
        read options stopEarly accept pending r rest

/-- The value of an option. -/
def value? (r : Reading) (name : String) : Option String := r.values.lookup name

end Reading

/-! ## Commands -/

/-- A number of 32 bits, with or without a plus in front. -/
def number? (text : String) : Option Nat := Text.Numeral.read? Word.count32 text.toList

/-- What stands at the places of a command's arguments. -/
inductive Place where
  /-- A text. -/
  | text
  /-- A path, which is not empty. -/
  | path
  /-- A number of 32 bits. -/
  | number
  deriving DecidableEq

/-- Whether an argument can stand at a place. -/
def Place.accepts : Place → String → Bool
  | .text, _ => true
  | .path, arg => !arg.isEmpty
  | .number, arg => (number? arg).isSome

/-- How a command is called: its name, its options, its places, and how many of them must be filled.
-/
structure CommandForm where
  name : String
  options : List OptionSpec
  places : List Place
  required : Nat
  build : Reading → Command

/-- The argument at a place. -/
def argument (r : Reading) (n : Nat) : String := r.positionals.getD n ""

/-- The cursor in the arguments. -/
def cursorOf (r : Reading) : Cursor :=
  ⟨argument r 0, (number? (argument r 1)).getD 1, (number? (argument r 2)).getD 1⟩

/-- A command at a cursor. -/
def cursorForm (name : String) (build : Cursor → ServerCommand) : CommandForm :=
  ⟨name, [], [.path, .number, .number], 1, fun r => .server (build (cursorOf r))⟩

/-- The commands that read or change settings. -/
def settingForms : List CommandForm := [
  ⟨"list", [], [], 0, fun _ => .listSettings⟩,
  ⟨"set", [⟨"user", none, .flag⟩], [.text, .text], 2, fun r =>
    .setSetting (argument r 0) (argument r 1) (r.flags.contains "user")⟩]

/-- The other commands. -/
def commandForms : List CommandForm := [
  ⟨"server-version", [⟨"require", none, .text⟩], [], 0, fun r =>
    .serverVersion (r.value? "require")⟩,
  cursorForm "runnables" .runnables,
  cursorForm "run" .run,
  cursorForm "test" .test,
  cursorForm "debug" .debug,
  ⟨"syntax-tree", [], [.path], 1, fun r => .server (.syntaxTree (argument r 0))⟩,
  ⟨"ssr", [⟨"parse-only", none, .flag⟩], [.path, .text], 2, fun r =>
    .server (.replaceStructurally (argument r 0) (argument r 1) (r.flags.contains "parse-only"))⟩,
  ⟨"package-graph", [⟨"full", none, .flag⟩], [], 0, fun r =>
    .server (.packageGraph (r.flags.contains "full"))⟩,
  cursorForm "matching-brace" .matchingBrace,
  cursorForm "join-lines" .joinLines,
  ⟨"reload-workspace", [], [], 0, fun _ => .server .reloadWorkspace⟩]

/-- The name of the group of commands for settings. -/
def settingsGroup : String := "config"

/-- The name of the command that shows help. -/
def helpCommand : String := "help"

/-- A command, and the workspace if one was given. -/
structure Invocation where
  workspace : Option String
  command : Command
  deriving DecidableEq, Repr

/-- Reads the arguments of a command. -/
def readForm (form : CommandForm) (args : List String) : Except Stop (Reading × Command) := do
  let accept (n : Nat) (arg : String) : Bool := (form.places[n]?).any (·.accepts arg)
  let (r, _) ← Reading.read (form.options ++ commonOptions) false accept none {} args
  if r.positionals.length < form.required then throw .usage
  return (r, form.build r)

/-- Whether help can be shown for a list of names. -/
def knowsHelp : List String → Bool
  | [] => true
  | name :: rest =>
    if name == settingsGroup then
      match rest with
      | [] => true
      | [name] => name == helpCommand || settingForms.any (·.name == name)
      | _ => false
    else rest.isEmpty && (name == helpCommand || commandForms.any (·.name == name))

/-- Reads the name of a command and its arguments. -/
def readCommand (forms : List CommandForm) (known : List String → Bool) :
    List String → Except Stop (Reading × Command)
  | [] => .error .usage
  | name :: args =>
    match forms.find? (·.name == name) with
    | some form => readForm form args
    | none =>
      if name == helpCommand then .error (if known args then .help else .usage) else .error .usage

/-- Reads the arguments of the program. A workspace that is given behind the name of a command
counts more than one in front of it. -/
def readArgs (args : List String) : Except Stop Invocation := do
  let refuse (_ : Nat) (_ : String) : Bool := false
  let options := ⟨"version", some 'V', .version⟩ :: commonOptions
  let (outer, rest) ← Reading.read options true refuse none {} args
  match rest with
  | [] => throw .usage
  | name :: args =>
    if name == settingsGroup then
      let (middle, rest) ← Reading.read commonOptions true refuse none {} args
      let (inner, command) ← readCommand settingForms (knowsHelp ∘ (settingsGroup :: ·)) rest
      return ⟨inner.value? "workspace" <|> middle.value? "workspace" <|> outer.value? "workspace",
        command⟩
    else
      let (inner, command) ← readCommand commandForms knowsHelp rest
      return ⟨inner.value? "workspace" <|> outer.value? "workspace", command⟩

end AnalyzerClient.CommandLine
