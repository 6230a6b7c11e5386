import AnalyzerClient.Protocol.Location

/-!
# The parameters of the analyzer's own messages
-/

namespace AnalyzerClient.Protocol

open AnalyzerClient.Json (Decoder Record)

/-- An optional value, with null for none. -/
def orNull {α : Type} (toJson : α → Json) (value : Option α) : Json := (value.map toJson).getD .null

/-- A document as it is named in parameters. -/
def documentJson (uri : Uri) : Json := .mkObject [("uri", uriToJson uri)]

/-- Decodes the name of a document. -/
def decodeDocument : Decoder Uri := (Record.required "uri" decodeUri).decode

/-- Decodes positions. -/
def decodePositions : Decoder (List Position) := Decoder.list Position.decode

/-- Decodes ranges. -/
def decodeRanges : Decoder (List Range) := Decoder.list Range.decode

/-- Asks for the syntax tree of a document or of a part of it. -/
structure SyntaxTreeParams where
  document : Uri
  range : Option Range

namespace SyntaxTreeParams

/-- The value of the parameters. -/
def toJson (p : SyntaxTreeParams) : Json :=
  .mkObject [("textDocument", documentJson p.document), ("range", orNull Range.toJson p.range)]

/-- The fields of the parameters. -/
def record : Record SyntaxTreeParams :=
  SyntaxTreeParams.mk <$> .required "textDocument" decodeDocument
    <*> .optional "range" Range.decode

end SyntaxTreeParams

/-- Asks for a structural search and replacement. -/
structure SsrParams where
  query : String
  /-- Only check the query. -/
  parseOnly : Bool
  document : Uri
  position : Position
  selections : List Range

namespace SsrParams

/-- The value of the parameters. -/
def toJson (p : SsrParams) : Json :=
  .mkObject [("query", .string p.query), ("parseOnly", .bool p.parseOnly),
    ("textDocument", documentJson p.document), ("position", p.position.toJson),
    ("selections", .array (p.selections.map Range.toJson))]

/-- The fields of the parameters. -/
def record : Record SsrParams :=
  SsrParams.mk <$> .required "query" Decoder.string
    <*> .required "parseOnly" Decoder.bool
    <*> .required "textDocument" decodeDocument
    <*> .required "position" Position.decode
    <*> .required "selections" decodeRanges

end SsrParams

/-- Asks for the graph of packages. -/
structure PackageGraphParams where
  /-- Packages outside the workspace too. -/
  full : Bool

namespace PackageGraphParams

/-- The value of the parameters. -/
def toJson (p : PackageGraphParams) : Json := .mkObject [("full", .bool p.full)]

/-- The fields of the parameters. -/
def record : Record PackageGraphParams :=
  PackageGraphParams.mk <$> .required "full" Decoder.bool

end PackageGraphParams

/-- Asks for the braces that match those at some positions. -/
structure MatchingBraceParams where
  document : Uri
  positions : List Position

namespace MatchingBraceParams

/-- The value of the parameters. -/
def toJson (p : MatchingBraceParams) : Json :=
  .mkObject [("textDocument", documentJson p.document),
    ("positions", .array (p.positions.map Position.toJson))]

/-- The fields of the parameters. -/
def record : Record MatchingBraceParams :=
  MatchingBraceParams.mk <$> .required "textDocument" decodeDocument
    <*> .required "positions" decodePositions

end MatchingBraceParams

/-- Asks for the edits that join lines. -/
structure JoinLinesParams where
  document : Uri
  ranges : List Range

namespace JoinLinesParams

/-- The value of the parameters. -/
def toJson (p : JoinLinesParams) : Json :=
  .mkObject [("textDocument", documentJson p.document),
    ("ranges", .array (p.ranges.map Range.toJson))]

/-- The fields of the parameters. -/
def record : Record JoinLinesParams :=
  JoinLinesParams.mk <$> .required "textDocument" decodeDocument
    <*> .required "ranges" decodeRanges

end JoinLinesParams

/-- Asks for the runnables of a document, or of a position in it. -/
structure RunnablesParams where
  document : Uri
  position : Option Position
  deriving DecidableEq, Repr

namespace RunnablesParams

/-- The value of the parameters. -/
def toJson (p : RunnablesParams) : Json :=
  .mkObject <| [("textDocument", documentJson p.document)] ++
    member? "position" Position.toJson p.position

/-- The fields of the parameters. -/
def record : Record RunnablesParams :=
  RunnablesParams.mk <$> .required "textDocument" decodeDocument
    <*> .defaultedOptional "position" Position.decode

end RunnablesParams

/-- How the server is. -/
inductive Health where
  | ok
  | warning
  | error
  deriving DecidableEq, Repr

/-- The name of a state of health. -/
def Health.name : Health → String
  | .ok => "ok"
  | .warning => "warning"
  | .error => "error"

/-- The state of health with a name. -/
def Health.ofName? : String → Option Health
  | "ok" => some .ok
  | "warning" => some .warning
  | "error" => some .error
  | _ => none

/-- The server's report on itself. -/
structure ServerStatus where
  health : Health
  /-- No work is left in the background. -/
  quiescent : Bool
  message : Option String
  deriving DecidableEq, Repr

namespace ServerStatus

/-- The value of the report. -/
def toJson (s : ServerStatus) : Json :=
  .mkObject [("health", .string s.health.name), ("quiescent", .bool s.quiescent),
    ("message", orNull .string s.message)]

/-- The fields of the report. -/
def record : Record ServerStatus :=
  ServerStatus.mk <$> .required "health" (Decoder.named Health.ofName?)
    <*> .required "quiescent" Decoder.bool
    <*> .optional "message" Decoder.string

end ServerStatus

end AnalyzerClient.Protocol
