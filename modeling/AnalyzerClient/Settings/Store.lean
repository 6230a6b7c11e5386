import AnalyzerClient.Settings.Layer

/-!
# The store of settings

A store has the schemas of its keys and at most one layer of each priority, the lowest first. The
value of a key is the one in the highest layer that has the key, or else the default of its schema.
-/

namespace AnalyzerClient.Settings

/-- Schemas by key, and layers in increasing order of their priorities. -/
structure Store where
  schemas : Dict Schema
  layers : List Layer
  deriving Repr

namespace Store

/-- The store without schemas and layers. -/
def empty : Store := ⟨[], []⟩

/-- Sets the schema of a key. -/
def register (s : Store) (key : String) (schema : Schema) : Store :=
  { s with schemas := s.schemas.insert key schema }

/-- Puts a layer behind those of lower and equal rank. -/
def insertLayer (layer : Layer) : List Layer → List Layer
  | [] => [layer]
  | l :: ls =>
    if layer.priority.rank < l.priority.rank then layer :: l :: ls else l :: insertLayer layer ls

/-- Adds a layer in place of the one with the same priority. -/
def addLayer (s : Store) (layer : Layer) : Store :=
  { s with layers := insertLayer layer (s.layers.filter (·.priority != layer.priority)) }

/-- The layer of a priority. -/
def layer? (s : Store) (priority : Priority) : Option Layer :=
  s.layers.find? (·.priority == priority)

/-- The value of a key. -/
def get? (s : Store) (key : String) : Option Json :=
  match s.layers.reverse.findSome? (·.get? key) with
  | some v => some v
  | none => (s.schemas.get? key).bind (·.default)

/-- The value of a key as a value of a type, if it is one. -/
def getAs? {α : Type} (s : Store) (decode : Json.Decoder α) (key : String) : Option α :=
  (s.get? key).bind decode.ofJson?

/-- The defaults of the schemas. -/
def defaults (s : Store) : Dict Json :=
  s.schemas.filterMap fun (key, schema) => schema.default.map fun v => (key, v)

/-- The values of all keys. -/
def all (s : Store) : Dict Json := s.layers.foldl (fun d l => d.overlay l.values) s.defaults

/-- Checks a value against the schema of its key, if there is one. -/
def validate (s : Store) (key : String) (value : Json) : Except Error Unit :=
  match s.schemas.get? key with
  | none => .ok ()
  | some schema => (schema.validate value).mapError (.invalidValue key)

/-- Sets the value of a key in the layer of a priority, if the value is valid. -/
def set (s : Store) (key : String) (value : Json) (priority : Priority) : Except Error Store := do
  s.validate key value
  if (s.layer? priority).isNone then throw (.missingLayer priority)
  return { s with
    layers := s.layers.map fun l => if l.priority == priority then l.set key value else l }

/-- The store with a layer of a priority, an empty one if there was none. -/
def ensureLayer (s : Store) (priority : Priority) : Store :=
  if s.layers.any (·.priority == priority) then s else s.addLayer (.empty priority)

/-- Sets the value of a key and saves its layer to a file. The layer is made first if there is none,
and it stays when the value is refused; the value stays when the file cannot be written. -/
def write (s : Store) (files : FileTree) (key : String) (value : Json) (priority : Priority)
    (path : String) : Except Error Unit × Store × FileTree :=
  let s := s.ensureLayer priority
  match s.set key value priority with
  | .error e => (.error e, s, files)
  | .ok s =>
    match s.layer? priority with
    | none => (.error (.missingLayer priority), s, files)
    | some layer =>
      let (result, files) := layer.save files path
      (result, s, files)

/-- What is wrong with the values of a store, key by key in every layer. -/
def violations (s : Store) : List (Priority × String × Schema.Violation) :=
  s.layers.flatMap fun l => l.values.filterMap fun (key, value) => do
    let schema ← s.schemas.get? key
    match schema.validate value with
    | .ok _ => none
    | .error violation => some (l.priority, key, violation)

/-- The wording of a violation in a layer. -/
def violationText : Priority × String × Schema.Violation → String
  | (priority, key, violation) =>
    "Setting `" ++ key ++ "` in " ++ priority.name ++ " layer: " ++ violation.message

end Store

end AnalyzerClient.Settings
