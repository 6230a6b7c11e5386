import AnalyzerClient.Json.Decoder

/-!
# Schemas of settings

A schema says what values a setting may have and which value it has when no layer sets it.
-/

namespace AnalyzerClient.Settings

/-- The type of a setting. -/
inductive ValueType where
  | string
  | boolean
  | object
  deriving DecidableEq, Repr

/-- The name of a type. -/
def ValueType.name : ValueType → String
  | .string => "string"
  | .boolean => "boolean"
  | .object => "object"

/-- The type with a name. -/
def ValueType.ofName? : String → Option ValueType
  | "string" => some .string
  | "boolean" => some .boolean
  | "object" => some .object
  | _ => none

/-- What is required of the values of a setting. -/
structure Schema where
  type : ValueType
  /-- The value when no layer sets one. -/
  default : Option Json
  description : String
  /-- The texts that are allowed, for settings of type string. -/
  choices : Option (List String)
  /-- Whether null is allowed. -/
  nullable : Bool
  deriving Repr

namespace Schema

/-- The schema of a type without any further requirement. -/
def ofType (type : ValueType) : Schema := ⟨type, none, "", none, false⟩

/-- What is wrong with a value. -/
inductive Violation where
  | null
  | type (expected : ValueType)
  | choice (allowed : List String)
  deriving DecidableEq, Repr

/-- The wording of a violation. -/
def Violation.message : Violation → String
  | .null => "Value must not be null"
  | .type expected => "Expected " ++ expected.name
  | .choice allowed => "Value must be one of: " ++ ", ".intercalate allowed

/-- Whether a text is among the choices of a schema. -/
def allows (s : Schema) (text : String) : Bool :=
  match s.choices with
  | none => true
  | some allowed => allowed.contains text

/-- Checks a value. -/
def validate (s : Schema) (v : Json) : Except Violation Unit :=
  if v.isNull then if s.nullable then .ok () else .error .null
  else
    match s.type, v with
    | .string, .string text =>
      if s.allows text then .ok () else .error (.choice (s.choices.getD []))
    | .boolean, .bool _ => .ok ()
    | .object, .object _ => .ok ()
    | type, _ => .error (.type type)

/-- The value of a schema in JSON, with all its fields. -/
def toJson (s : Schema) : Json :=
  .mkObject [
    ("type", .string s.type.name),
    ("default", s.default.getD .null),
    ("description", .string s.description),
    ("enum", (s.choices.map Json.ofStrings).getD .null),
    ("nullable", .bool s.nullable)]

/-- The fields of a schema. -/
def record : Json.Record Schema :=
  Schema.mk <$> .required "type" (Json.Decoder.named ValueType.ofName?)
    <*> .optional "default" Json.Decoder.any
    <*> .defaulted "description" Json.Decoder.string ""
    <*> .optional "enum" (Json.Decoder.list Json.Decoder.string)
    <*> .defaulted "nullable" Json.Decoder.bool false

/-- Decodes a schema. -/
def decode : Json.Decoder Schema := record.decode

end Schema

end AnalyzerClient.Settings
