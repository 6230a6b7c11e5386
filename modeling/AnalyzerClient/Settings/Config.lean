import AnalyzerClient.Settings.Store

/-!
# The settings of the client

The keys that the client knows with their schemas, the store that holds them, and the typed view of
their values. A value that has not the type of its key counts as the built-in default there.
-/

namespace AnalyzerClient.Settings

namespace Key

/-- The path of the server's binary. -/
def serverPath : String := "webby.server.path"

/-- The variables that are set for the server. -/
def serverExtraEnv : String := "webby.server.extraEnv"

/-- The debugger that executables are handed to. -/
def debugRuntime : String := "webby.debug.runtime"

/-- The configuration that vimspector launches. -/
def vimspectorConfiguration : String := "webby.debug.vimspector.configuration.name"

/-- The snippet that launches nvim-dap. -/
def nvimDapTemplate : String := "webby.debug.nvimdap.configuration.template"

/-- Whether the run terminal is made ready for the user's input. -/
def startInsert : String := "webby.terminal.startinsert"

/-- How much of the messages between client and server is logged. -/
def trace : String := "webby.trace.server"

end Key

/-- How much of the messages between client and server is logged. -/
inductive TraceLevel where
  | off
  | messages
  | verbose
  deriving DecidableEq, Repr, Inhabited

/-- The name of a level. -/
def TraceLevel.name : TraceLevel → String
  | .off => "off"
  | .messages => "messages"
  | .verbose => "verbose"

/-- The level with a name. -/
def TraceLevel.ofName? : String → Option TraceLevel
  | "off" => some .off
  | "messages" => some .messages
  | "verbose" => some .verbose
  | _ => none

/-- Decodes a level. -/
def TraceLevel.decode : Json.Decoder TraceLevel := Json.Decoder.named TraceLevel.ofName?

/-- The snippet for nvim-dap; `$exe` and `$args` are replaced when it is used. -/
def defaultTemplate : String :=
  "\n".intercalate [
    "lua require('dap').run(\x7b",
    "  type = 'codelldb',",
    "  request = 'launch',",
    "  name = 'webby debug',",
    "  program = $exe,",
    "  args = \x7b $args \x7d,",
    "  cwd = vim.fn.getcwd(),",
    "  stopOnEntry = false,",
    "\x7d)"]

/-- The schemas of the known keys. -/
def knownSchemas : List (String × Schema) := [
  (Key.serverPath,
    ⟨.string, some .null, "Path to a custom webby-analyzer binary", none, true⟩),
  (Key.serverExtraEnv,
    ⟨.object, some (.object []), "Extra environment variables for the language server process",
      none, false⟩),
  (Key.debugRuntime,
    ⟨.string, some (.string "termdebug"), "Debugger integration used by the debug command",
      some ["termdebug", "vimspector", "nvim-dap"], false⟩),
  (Key.vimspectorConfiguration,
    ⟨.string, some (.string "launch"), "Vimspector configuration to launch", none, false⟩),
  (Key.nvimDapTemplate,
    ⟨.string, some (.string defaultTemplate),
      "nvim-dap launch template, `$exe` and `$args` are replaced", none, false⟩),
  (Key.startInsert,
    ⟨.boolean, some (.bool false), "Enter insert mode after opening a run terminal", none, false⟩),
  (Key.trace,
    ⟨.string, some (.string "off"), "Trace the communication with the language server",
      some ["off", "messages", "verbose"], false⟩)]

/-- The store of the known keys with an empty layer of defaults. -/
def Store.initial : Store :=
  knownSchemas.foldl (fun s (key, schema) => s.register key schema)
    (Store.empty.addLayer (.empty .default))

/-- The settings of the server process. -/
structure ServerSettings where
  path : Option String
  extraEnv : Dict String
  deriving Repr, Inhabited, DecidableEq

/-- The settings of debugging. The runtime is the configured text, which is looked at only when the
debugger is started. -/
structure DebugSettings where
  runtime : String
  vimspectorConfiguration : String
  nvimDapTemplate : String
  deriving Repr, DecidableEq

/-- The built-in settings of debugging. -/
def DebugSettings.initial : DebugSettings := ⟨"termdebug", "launch", defaultTemplate⟩

/-- The values of the known keys. -/
structure Config where
  server : ServerSettings
  debug : DebugSettings
  startInsert : Bool
  trace : TraceLevel
  deriving Repr, DecidableEq

/-- The values of the known keys in a store. -/
def Store.config (s : Store) : Config :=
  let text (key initial : String) : String := (s.getAs? Json.Decoder.string key).getD initial
  let initial := DebugSettings.initial
  { server := {
      path := s.getAs? Json.Decoder.string Key.serverPath
      extraEnv := (s.getAs? (Json.Decoder.dict Json.Decoder.string) Key.serverExtraEnv).getD [] }
    debug := {
      runtime := text Key.debugRuntime initial.runtime
      vimspectorConfiguration :=
        text Key.vimspectorConfiguration initial.vimspectorConfiguration
      nvimDapTemplate := text Key.nvimDapTemplate initial.nvimDapTemplate }
    startInsert := (s.getAs? Json.Decoder.bool Key.startInsert).getD false
    trace := (s.getAs? TraceLevel.decode Key.trace).getD .off }

/-- The user's settings file below the directory of configurations. -/
def userFile (configurations : String) : String :=
  Path.join (Path.join configurations "webby") "settings.json"

/-- The settings file of a workspace. -/
def workspaceFile (root : String) : String := Path.join (Path.join root ".webby") "settings.json"

/-- Adds the layer of a file, if there is a file. -/
def Store.addFile (s : Store) (files : FileTree) (path : Option String) (priority : Priority) :
    Except Error Store :=
  match path with
  | none => .ok s
  | some path =>
    if files.contains path then (Layer.ofFile files path priority).map s.addLayer else .ok s

/-- The store of the known keys with the user's file and then the workspace's file, if they are
there. -/
def Store.load (files : FileTree) (configurations root : Option String) : Except Error Store := do
  let s ← Store.initial.addFile files (configurations.map userFile) .user
  s.addFile files (root.map workspaceFile) .workspace

end AnalyzerClient.Settings
