import AnalyzerClient.Protocol.Capabilities
import AnalyzerClient.Protocol.Edit
import AnalyzerClient.Protocol.Params
import AnalyzerClient.Runnable.Wire
import AnalyzerClient.Settings.Config

/-!
# The requests of the client

A request has a method, parameters, and a decoder for its result.
-/

namespace AnalyzerClient.Protocol

open AnalyzerClient.Json (Decoder Record)

/-- A request with results of a type. -/
structure Request (α : Type) where
  method : String
  params : Json
  decode : Decoder α

/-- The server as it introduces itself. -/
structure ServerInfo where
  name : String
  version : Option String
  deriving DecidableEq, Repr

/-- The fields of an introduction. -/
def ServerInfo.record : Record ServerInfo :=
  ServerInfo.mk <$> .required "name" Decoder.string <*> .optional "version" Decoder.string

/-- The fields of the answer to the first request. -/
def initializeRecord : Record (Option ServerInfo) :=
  (fun _ info => info) <$> .required "capabilities" Capabilities.shape
    <*> .optional "serverInfo" ServerInfo.record.decode

/-- What the client can do. -/
def clientCapabilities : Json :=
  .mkObject [
    ("textDocument", .mkObject [
      ("hover", .mkObject [("contentFormat", .ofStrings ["markdown", "plaintext"])]),
      ("publishDiagnostics", .mkObject [("relatedInformation", .bool true)])]),
    ("window", .mkObject [("workDoneProgress", .bool true)]),
    ("experimental", .mkObject [("serverStatusNotification", .bool true), ("ssr", .bool true)])]

/-- The name of the client. -/
def clientName : String := "webby"

/-- The version of the client. -/
def clientVersion : String := "0.1.0"

namespace Request

/-- Introduces the client and its workspace to the server. -/
def connect (processId : Nat) (root : Option Uri) (options : Option Json)
    (trace : Settings.TraceLevel) : Request (Option ServerInfo) where
  method := "initialize"
  params := .mkObject <| [
      ("processId", .ofNat processId),
      ("rootUri", orNull uriToJson root),
      ("capabilities", clientCapabilities),
      ("trace", .string trace.name),
      ("clientInfo",
        .mkObject [("name", .string clientName), ("version", .string clientVersion)])] ++
    member? "initializationOptions" id options
  decode := initializeRecord.decode

/-- Asks the server to end its work. -/
def shutdown : Request Unit := ⟨"shutdown", .null, Decoder.unit⟩

/-- Asks for a syntax tree. -/
def syntaxTree (document : Uri) (range : Option Range) : Request String :=
  ⟨"webby-analyzer/syntaxTree", SyntaxTreeParams.toJson ⟨document, range⟩, Decoder.string⟩

/-- Asks for a structural search and replacement. -/
def replaceStructurally (params : SsrParams) : Request WorkspaceEdit :=
  ⟨"experimental/ssr", params.toJson, WorkspaceEdit.decode⟩

/-- Asks for the graph of packages. -/
def packageGraph (full : Bool) : Request String :=
  ⟨"webby-analyzer/viewPackageGraph", PackageGraphParams.toJson ⟨full⟩, Decoder.string⟩

/-- Asks for the matching braces. -/
def matchingBrace (document : Uri) (positions : List Position) : Request (List Position) :=
  ⟨"experimental/matchingBrace", MatchingBraceParams.toJson ⟨document, positions⟩, decodePositions⟩

/-- Asks for the edits that join lines. -/
def joinLines (document : Uri) (ranges : List Range) : Request (List TextEdit) :=
  ⟨"experimental/joinLines", JoinLinesParams.toJson ⟨document, ranges⟩,
    Decoder.list TextEdit.decode⟩

/-- Asks the server to read the workspace again. -/
def reloadWorkspace : Request Unit := ⟨"webby-analyzer/reloadWorkspace", .null, Decoder.unit⟩

/-- Asks for runnables. -/
def runnables (params : RunnablesParams) : Request (List Runnable) :=
  ⟨"experimental/runnables", params.toJson, Decoder.list Runnable.decode⟩

end Request

/-- A document that is opened: its URL, language, version and text. -/
def openedDocument (uri : Uri) (language : String) (version : Int) (text : String) : Json :=
  .mkObject [("textDocument", .mkObject [("uri", uriToJson uri), ("languageId", .string language),
    ("version", .ofInt version), ("text", .string text)])]

/-- The method of the notification that a document is opened. -/
def openMethod : String := "textDocument/didOpen"

/-- The method of the notification behind the first answer. -/
def initializedMethod : String := "initialized"

/-- The method of the last notification. -/
def exitMethod : String := "exit"

end AnalyzerClient.Protocol
