import AnalyzerClient.FileTree
import AnalyzerClient.Json.Draft
import AnalyzerClient.Json.Printer
import AnalyzerClient.Settings.Comment
import AnalyzerClient.Settings.Schema

/-!
# Layers of settings

A layer gives values to keys. It is read from a text or a file, changed key by key, and saved as
pretty JSON.
-/

namespace AnalyzerClient.Settings

/-- Which layer wins: the later in this list. -/
inductive Priority where
  /-- Values that are built in. -/
  | default
  /-- Values of the user, for every workspace. -/
  | user
  /-- Values of a workspace. -/
  | workspace
  deriving DecidableEq, Repr

/-- The rank of a priority; the higher one wins. -/
def Priority.rank : Priority → Nat
  | .default => 0
  | .user => 10
  | .workspace => 20

/-- The name of a priority. -/
def Priority.name : Priority → String
  | .default => "Default"
  | .user => "User"
  | .workspace => "Workspace"

/-- What can go wrong with settings. -/
inductive Error where
  /-- A file could not be read or written. -/
  | access (path : String) (cause : OsError)
  /-- A text is no JSON; the fault is on this line of the text without comments. -/
  | invalidText (path : Option String) (fault : Json.Fault) (line : Nat)
  /-- A value violates the schema of its key. -/
  | invalidValue (key : String) (violation : Schema.Violation)
  /-- There is no layer of this priority. -/
  | missingLayer (priority : Priority)
  deriving Repr

/-- The wording of a fault of a JSON text, which readers are free to choose. -/
def faultText : String := "<json>"

/-- The wording of an error. -/
def Error.message : Error → String
  | .access path cause => "failed to access " ++ path ++ ": " ++ cause.message
  | .invalidText path _ _ =>
    "invalid settings JSON" ++ (path.map (" in " ++ ·)).getD "" ++ ": " ++ faultText
  | .invalidValue key violation => "invalid value for `" ++ key ++ "`: " ++ violation.message
  | .missingLayer priority => "no layer with priority " ++ priority.name

/-- The failure behind an error, in words. -/
def Error.cause? : Error → Option String
  | .access _ cause => some cause.message
  | .invalidText _ _ _ => some faultText
  | _ => none

/-- Values of keys, with the file that they were read from. -/
structure Layer where
  priority : Priority
  source : Option String
  values : Dict Json
  deriving Repr

namespace Layer

/-- The layer without values. -/
def empty (priority : Priority) : Layer := ⟨priority, none, []⟩

/-- The members of an object; other values have none. -/
def membersOf : Json → Dict Json
  | .object members => members
  | _ => []

/-- Reads a layer from JSON with comments. A value that is no object gives no keys. -/
def ofText (text : String) (priority : Priority) : Except Error Layer :=
  let stripped := stripComments text.toList
  match Json.ofChars stripped with
  | .ok v => .ok ⟨priority, none, membersOf v⟩
  | .error fault => .error (.invalidText none fault (fault.line stripped))

/-- An error with the file in which it arose. -/
def locate (path : String) : Error → Error
  | .invalidText _ fault line => .invalidText (some path) fault line
  | e => e

/-- Reads a layer from a file. -/
def ofFile (files : FileTree) (path : String) (priority : Priority) : Except Error Layer := do
  let text ← (files.readText path).mapError (.access path)
  let layer ← (ofText text priority).mapError (locate path)
  return { layer with source := some path }

/-- The value of a key. -/
def get? (l : Layer) (key : String) : Option Json := l.values.get? key

/-- Sets the value of a key. -/
def set (l : Layer) (key : String) (value : Json) : Layer :=
  { l with values := l.values.insert key value }

/-- The text that a layer is saved as. -/
def render (l : Layer) : String := (Json.object l.values).pretty

/-- Saves a layer to a file, and makes the directories above it that are missing. The directories
that were made stay when the others or the file cannot be made. -/
def save (l : Layer) (files : FileTree) (path : String) : Except Error Unit × FileTree :=
  let (made, files) : Except OsError Unit × FileTree := match Path.parent? path with
    | none => (.ok (), files)
    | some parent => files.makeDirectories parent
  match made with
  | .error e => (.error (.access path e), files)
  | .ok () =>
    match files.write path (Text.Utf8.encode l.render) with
    | .error e => (.error (.access path e), files)
    | .ok files => (.ok (), files)

end Layer

end AnalyzerClient.Settings
