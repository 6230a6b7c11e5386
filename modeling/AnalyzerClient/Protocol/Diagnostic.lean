import AnalyzerClient.Protocol.Location

/-!
# Diagnostics

What the server finds wrong with a document.
-/

namespace AnalyzerClient.Protocol

open AnalyzerClient.Json (Decoder Record)

/-- A code or a token: a number of 32 bits or a text. -/
inductive Label where
  | number (n : Int)
  | text (s : String)
  deriving DecidableEq, Repr

namespace Label

/-- The value of a label. -/
def toJson : Label → Json
  | .number n => .ofInt n
  | .text s => .string s

/-- Decodes a label. -/
def decode : Decoder Label :=
  Decoder.firstOf [fun d => (Decoder.int32 d).map .number,
    fun d => (Decoder.string d).map .text]

end Label

/-- Another place that a diagnostic has to do with. -/
structure RelatedPlace where
  uri : Uri
  range : Range
  message : String
  deriving DecidableEq, Repr

namespace RelatedPlace

/-- The value of a place. -/
def toJson (p : RelatedPlace) : Json :=
  .mkObject [
    ("location", .mkObject [("uri", uriToJson p.uri), ("range", p.range.toJson)]),
    ("message", .string p.message)]

/-- The fields of a location. -/
def location : Record (Uri × Range) :=
  Prod.mk <$> .required "uri" decodeUri <*> .required "range" Range.decode

/-- The fields of a place. -/
def record : Record RelatedPlace :=
  (fun location message => ⟨location.1, location.2, message⟩) <$>
    .required "location" location.decode <*> .required "message" Decoder.string

end RelatedPlace

/-- Something that is wrong with a part of a document. -/
structure Diagnostic where
  range : Range
  severity : Option Int
  code : Option Label
  /-- Where the code is described. -/
  codeUri : Option Uri
  source : Option String
  message : String
  related : Option (List RelatedPlace)
  tags : Option (List Int)
  data : Option Json
  deriving Repr

namespace Diagnostic

/-- The value of a diagnostic. -/
def toJson (d : Diagnostic) : Json :=
  .mkObject <| [("range", d.range.toJson), ("message", .string d.message)] ++
    member? "severity" .ofInt d.severity ++ member? "code" Label.toJson d.code ++
    member? "codeDescription" (fun uri => .mkObject [("href", uriToJson uri)]) d.codeUri ++
    member? "source" .string d.source ++
    member? "relatedInformation" (fun ps => .array (ps.map RelatedPlace.toJson)) d.related ++
    member? "tags" (fun ts => .array (ts.map .ofInt)) d.tags ++ member? "data" id d.data

/-- The fields of a diagnostic. -/
def record : Record Diagnostic :=
  Diagnostic.mk <$> .required "range" Range.decode
    <*> .optional "severity" Decoder.int32
    <*> .optional "code" Label.decode
    <*> .optional "codeDescription" (Record.required "href" decodeUri).decode
    <*> .optional "source" Decoder.string
    <*> .required "message" Decoder.string
    <*> .optional "relatedInformation" (Decoder.list RelatedPlace.record.decode)
    <*> .optional "tags" (Decoder.list Decoder.int32)
    <*> .optional "data" Decoder.any

end Diagnostic

end AnalyzerClient.Protocol
