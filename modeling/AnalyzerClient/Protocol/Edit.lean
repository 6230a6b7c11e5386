import AnalyzerClient.Protocol.Location

/-!
# Edits

Edits of documents and of the tree of files, as the server answers with them. They are shown with
their members in the order in which people read them.
-/

namespace AnalyzerClient.Protocol

open AnalyzerClient.Json (Decoder Record)

/-- A change of a part of a document. -/
structure TextEdit where
  range : Range
  newText : String
  deriving DecidableEq, Repr

namespace TextEdit

/-- An edit as it is shown. -/
def written (e : TextEdit) : Json :=
  .object [("range", e.range.written), ("newText", .string e.newText)]

/-- The fields of an edit. -/
def record : Record TextEdit :=
  TextEdit.mk <$> .required "range" Range.decode <*> .required "newText" Decoder.string

/-- Decodes an edit. -/
def decode : Decoder TextEdit := record.decode

/-- Edits as they are shown. -/
def writtenList (es : List TextEdit) : Json := .array (es.map written)

end TextEdit

/-- Changes of a document of which the version can be given. -/
structure DocumentEdit where
  document : Uri
  version : Option Int
  edits : List TextEdit
  deriving DecidableEq, Repr

namespace DocumentEdit

/-- The fields of a document with a version. -/
def identifier : Record (Uri × Option Int) :=
  Prod.mk <$> .required "uri" decodeUri <*> .optional "version" Decoder.int32

/-- Changes of a document as they are shown. -/
def written (e : DocumentEdit) : Json :=
  .object [
    ("textDocument", .object [("uri", uriToJson e.document),
      ("version", (e.version.map Json.ofInt).getD .null)]),
    ("edits", TextEdit.writtenList e.edits)]

/-- The fields of the changes of a document. -/
def record : Record DocumentEdit :=
  (fun document edits => ⟨document.1, document.2, edits⟩) <$>
    .required "textDocument" identifier.decode
    <*> .required "edits" (Decoder.list TextEdit.decode)

/-- Decodes the changes of a document. -/
def decode : Decoder DocumentEdit := record.decode

end DocumentEdit

/-- What to do when a file that is made is there already. -/
structure ConflictOptions where
  overwrite : Option Bool
  ignore : Option Bool
  deriving DecidableEq, Repr

namespace ConflictOptions

/-- The options as they are shown. -/
def written (o : ConflictOptions) : Json :=
  .object <| member? "overwrite" .bool o.overwrite ++ member? "ignoreIfExists" .bool o.ignore

/-- The fields of the options. -/
def record : Record ConflictOptions :=
  ConflictOptions.mk <$> .optional "overwrite" Decoder.bool
    <*> .optional "ignoreIfExists" Decoder.bool

end ConflictOptions

/-- What to do when a file is deleted. -/
structure DeletionOptions where
  recursive : Option Bool
  ignore : Option Bool
  remark : Option String
  deriving DecidableEq, Repr

namespace DeletionOptions

/-- The options as they are shown. -/
def written (o : DeletionOptions) : Json :=
  .object <| member? "recursive" .bool o.recursive ++
    member? "ignoreIfNotExists" .bool o.ignore ++ member? "annotationId" .string o.remark

/-- The fields of the options. -/
def record : Record DeletionOptions :=
  DeletionOptions.mk <$> .optional "recursive" Decoder.bool
    <*> .optional "ignoreIfNotExists" Decoder.bool
    <*> .optional "annotationId" Decoder.string

end DeletionOptions

/-- A change of the tree of files. -/
inductive FileOperation where
  | create (uri : Uri) (options : Option ConflictOptions) (remark : Option String)
  | rename (source target : Uri) (options : Option ConflictOptions) (remark : Option String)
  | delete (uri : Uri) (options : Option DeletionOptions)
  deriving DecidableEq, Repr

namespace FileOperation

/-- A change as it is shown. -/
def written : FileOperation → Json
  | .create uri options remark =>
    .object <| [("kind", .string "create"), ("uri", uriToJson uri)] ++
      member? "options" ConflictOptions.written options ++
      member? "annotationId" .string remark
  | .rename source target options remark =>
    .object <| [("kind", .string "rename"), ("oldUri", uriToJson source),
        ("newUri", uriToJson target)] ++
      member? "options" ConflictOptions.written options ++
      member? "annotationId" .string remark
  | .delete uri options =>
    .object <| [("kind", .string "delete"), ("uri", uriToJson uri)] ++
      member? "options" DeletionOptions.written options

/-- The fields of a file that is made. -/
def createRecord : Record FileOperation :=
  FileOperation.create <$> .required "uri" decodeUri
    <*> .optional "options" ConflictOptions.record.decode
    <*> .optional "annotationId" Decoder.string

/-- The fields of a file that gets another name. -/
def renameRecord : Record FileOperation :=
  FileOperation.rename <$> .required "oldUri" decodeUri
    <*> .required "newUri" decodeUri
    <*> .optional "options" ConflictOptions.record.decode
    <*> .optional "annotationId" Decoder.string

/-- The fields of a file that is deleted. -/
def deleteRecord : Record FileOperation :=
  FileOperation.delete <$> .required "uri" decodeUri
    <*> .optional "options" DeletionOptions.record.decode

/-- Decodes a change. -/
def decode : Decoder FileOperation :=
  Decoder.tagged "kind" [("create", createRecord.decode), ("rename", renameRecord.decode),
    ("delete", deleteRecord.decode)]

end FileOperation

/-- One of the changes that are made in order. -/
inductive Change where
  | file (operation : FileOperation)
  | document (edit : DocumentEdit)
  deriving DecidableEq, Repr

namespace Change

/-- A change as it is shown. -/
def written : Change → Json
  | .file operation => operation.written
  | .document edit => edit.written

/-- Decodes a change. -/
def decode : Decoder Change :=
  Decoder.firstOf [fun d => (FileOperation.decode d).map .file,
    fun d => (DocumentEdit.decode d).map .document]

/-- Decodes changes. When all of them are changes of documents they are read as such. -/
def decodeList : Decoder (List Change) :=
  Decoder.firstOf [fun d => (Decoder.list DocumentEdit.decode d).map (·.map .document),
    Decoder.list decode]

end Change

/-- What the user is told about a change. -/
structure Remark where
  label : String
  needsConfirmation : Option Bool
  description : Option String
  deriving DecidableEq, Repr

namespace Remark

/-- A remark as it is shown. -/
def written (a : Remark) : Json :=
  .object <| [("label", .string a.label)] ++
    member? "needsConfirmation" .bool a.needsConfirmation ++
    member? "description" .string a.description

/-- The fields of a remark. -/
def record : Record Remark :=
  Remark.mk <$> .required "label" Decoder.string
    <*> .optional "needsConfirmation" Decoder.bool
    <*> .optional "description" Decoder.string

end Remark

/-- An edit of a workspace. -/
structure WorkspaceEdit where
  /-- Edits by document. -/
  changes : Option (Dict (List TextEdit))
  documentChanges : Option (List Change)
  remarks : Option (Dict Remark)
  deriving DecidableEq, Repr

namespace WorkspaceEdit

/-- An edit as it is shown. -/
def written (e : WorkspaceEdit) : Json :=
  .object <|
    member? "changes" (fun d => .object (Dict.mapValues TextEdit.writtenList d)) e.changes ++
    member? "documentChanges" (fun cs => .array (cs.map Change.written)) e.documentChanges ++
    member? "changeAnnotations" (fun d => .object (Dict.mapValues Remark.written d))
      e.remarks

/-- The key of a document in normal form. -/
def documentKey (text : String) : Except Json.Fault String :=
  match Uri.parse? text with
  | some uri => .ok uri.text
  | none => .error .mismatch

/-- The fields of an edit. -/
def record : Record WorkspaceEdit :=
  WorkspaceEdit.mk <$>
    .defaultedOptional "changes" (Decoder.dictWith documentKey (Decoder.list TextEdit.decode))
    <*> .optional "documentChanges" Change.decodeList
    <*> .optional "changeAnnotations" (Decoder.dict Remark.record.decode)

/-- Decodes an edit. -/
def decode : Decoder WorkspaceEdit := record.decode

end WorkspaceEdit

end AnalyzerClient.Protocol
