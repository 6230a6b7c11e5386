import AnalyzerClient.Protocol.Diagnostic
import AnalyzerClient.Protocol.Params

/-!
# Notices of the server

What the server tells without being asked: diagnostics, progress, messages for the log and for the
user, and its own status.
-/

namespace AnalyzerClient.Protocol

open AnalyzerClient.Json (Decoder Record)

/-- A step of some work. -/
inductive WorkStep where
  | start (title : String) (cancellable : Option Bool) (message : Option String)
      (percentage : Option Nat)
  | report (cancellable : Option Bool) (message : Option String) (percentage : Option Nat)
  | stop (message : Option String)
  deriving DecidableEq, Repr

namespace WorkStep

/-- The value of a step. -/
def toJson : WorkStep → Json
  | .start title cancellable message percentage =>
    .mkObject <| [("kind", .string "begin"), ("title", .string title)] ++
      member? "cancellable" .bool cancellable ++ member? "message" .string message ++
      member? "percentage" .ofNat percentage
  | .report cancellable message percentage =>
    .mkObject <| [("kind", .string "report")] ++ member? "cancellable" .bool cancellable ++
      member? "message" .string message ++ member? "percentage" .ofNat percentage
  | .stop message => .mkObject <| [("kind", .string "end")] ++ member? "message" .string message

/-- The fields of the first step. -/
def startRecord : Record WorkStep :=
  WorkStep.start <$> .required "title" Decoder.string
    <*> .optional "cancellable" Decoder.bool
    <*> .optional "message" Decoder.string
    <*> .optional "percentage" Decoder.nat32

/-- The fields of a step on the way. -/
def reportRecord : Record WorkStep :=
  WorkStep.report <$> .optional "cancellable" Decoder.bool
    <*> .optional "message" Decoder.string
    <*> .optional "percentage" Decoder.nat32

/-- The fields of the last step. -/
def stopRecord : Record WorkStep := WorkStep.stop <$> .optional "message" Decoder.string

/-- Decodes a step. -/
def decode : Decoder WorkStep :=
  Decoder.tagged "kind" [("begin", startRecord.decode), ("report", reportRecord.decode),
    ("end", stopRecord.decode)]

end WorkStep

/-- The progress of some work. -/
structure Progress where
  token : Label
  step : WorkStep
  deriving DecidableEq, Repr

namespace Progress

/-- The value of the progress. -/
def toJson (p : Progress) : Json :=
  .mkObject [("token", p.token.toJson), ("value", p.step.toJson)]

/-- The fields of the progress. -/
def record : Record Progress :=
  Progress.mk <$> .required "token" Label.decode <*> .required "value" WorkStep.decode

end Progress

/-- A message with a level. -/
structure LeveledMessage where
  level : Int
  message : String
  deriving DecidableEq, Repr

/-- The fields of a message with a level. -/
def LeveledMessage.record : Record LeveledMessage :=
  LeveledMessage.mk <$> .required "type" Decoder.int32 <*> .required "message" Decoder.string

/-- The diagnostics of a document. -/
structure PublishedDiagnostics where
  uri : Uri
  diagnostics : List Diagnostic
  version : Option Int
  deriving Repr

/-- The fields of published diagnostics. -/
def PublishedDiagnostics.record : Record PublishedDiagnostics :=
  PublishedDiagnostics.mk <$> .required "uri" decodeUri
    <*> .required "diagnostics" (Decoder.list Diagnostic.record.decode)
    <*> .optional "version" Decoder.int32

/-- A notice of the server. -/
inductive Notice where
  | diagnostics (uri : Uri) (diagnostics : List Diagnostic)
  | progress (progress : Progress)
  | log (level : Int) (message : String)
  | shown (level : Int) (message : String)
  | status (status : ServerStatus)
  deriving Repr

namespace Notice

/-- The method of the diagnostics of a document. -/
def diagnosticsMethod : String := "textDocument/publishDiagnostics"

/-- The method of the progress of some work. -/
def progressMethod : String := "$/progress"

/-- The method of messages for the log. -/
def logMethod : String := "window/logMessage"

/-- The method of messages for the user. -/
def showMethod : String := "window/showMessage"

/-- The method of the server's report on itself. -/
def statusMethod : String := "experimental/serverStatus"

/-- The notice of a notification. Notifications of other methods, and those with parameters of the
wrong shape, are no notices. -/
def ofNotification? (method : String) (params : Json) : Option Notice :=
  if method == diagnosticsMethod then
    (PublishedDiagnostics.record.decode.ofJson? params).map fun p =>
      .diagnostics p.uri p.diagnostics
  else if method == progressMethod then (Progress.record.decode.ofJson? params).map .progress
  else if method == logMethod then
    (LeveledMessage.record.decode.ofJson? params).map fun p => .log p.level p.message
  else if method == showMethod then
    (LeveledMessage.record.decode.ofJson? params).map fun p => .shown p.level p.message
  else if method == statusMethod then (ServerStatus.record.decode.ofJson? params).map .status
  else none

end Notice

end AnalyzerClient.Protocol
