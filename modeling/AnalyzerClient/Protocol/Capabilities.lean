import AnalyzerClient.Json.Decoder

/-!
# The capabilities of a server

A server tells in its first answer what it can do. The client does not use this, but an answer in
which a capability has the wrong shape is refused. A shape is a decoder that keeps nothing.
-/

namespace AnalyzerClient.Protocol.Capabilities

open AnalyzerClient.Json (Decoder Draft Fault Field Record)

/-- A decoder that only checks. -/
abbrev Shape := Decoder Unit

namespace Shape

/-- The shape that a decoder checks. -/
def of {α : Type} (decode : Decoder α) : Shape := fun d => (decode d).map fun _ => ()

/-- A truth value. -/
def bool : Shape := of Decoder.bool

/-- A text. -/
def text : Shape := of Decoder.string

/-- An array of values of a shape. -/
def list (shape : Shape) : Shape := of (Decoder.list shape)

/-- An array of texts. -/
def texts : Shape := list text

/-- One of several shapes. -/
def oneOf (shapes : List Shape) : Shape := Decoder.firstOf shapes

/-- A record of fields that are only checked. -/
def record (fields : List Field) : Record Unit := ⟨fields, fun _ => .ok ()⟩

/-- A record, written as an object or as an array. -/
def fields (fs : List Field) : Shape := (record fs).decode

/-- A record that is always written as an object. -/
def members (fs : List Field) : Shape := (record fs).decodeObject Draft.skip

end Shape

open Shape

/-- A field that may be missing or null. -/
def may (name : String) (shape : Shape) : Field :=
  ⟨name, .optional, of (Decoder.optional shape)⟩

/-- A field that must be there. -/
def must (name : String) (shape : Shape) : Field := ⟨name, .required, shape⟩

/-- Whether the server reports the progress of what it is asked for. -/
def progress : Field := may "workDoneProgress" bool

/-- Whether the server completes what it sent when it is asked. -/
def resolve : Field := may "resolveProvider" bool

/-- A truth value, or options with these fields. -/
def switch (fs : List Field) : Shape := oneOf [bool, members fs]

/-- A truth value, or options that only tell about progress. -/
def plainSwitch : Shape := switch [progress]

/-- Which documents are meant. -/
def documentSelector : Shape :=
  list (fields [may "language" text, may "scheme" text, may "pattern" text])

/-- For which documents something is registered, and as what. -/
def registration : Shape := fields [may "documentSelector" documentSelector, may "id" text]

/-- A truth value, or a registration. -/
def registered : Shape := oneOf [bool, registration]

/-- A truth value, options without fields, or a registration. -/
def registeredOrEmpty : Shape := oneOf [bool, fields [], registration]

/-- How documents are told to the server: a number, or options. -/
def documentSync : Shape :=
  oneOf [of Decoder.int32, fields [
    may "openClose" bool,
    may "change" (of Decoder.int32),
    may "willSave" bool,
    may "willSaveWaitUntil" bool,
    may "save" (oneOf [bool, fields [may "includeText" bool]])]]

/-- What completes texts. -/
def completion : Shape := members [
  resolve,
  may "triggerCharacters" texts,
  may "allCommitCharacters" texts,
  progress,
  may "completionItem" (fields [may "labelDetailsSupport" bool])]

/-- What shows signatures. -/
def signatureHelp : Shape :=
  members [may "triggerCharacters" texts, may "retriggerCharacters" texts, progress]

/-- What formats while the user types. -/
def typingFormat : Shape :=
  fields [must "firstTriggerCharacter" text, may "moreTriggerCharacter" texts]

/-- What a file pattern stands for. -/
def patternKind? : String → Option Unit
  | "file" | "folder" => some ()
  | _ => none

/-- Files that an operation is about. -/
def fileFilter : Shape := fields [
  may "scheme" text,
  must "pattern" (fields [
    must "glob" text,
    may "matches" (Decoder.named patternKind?),
    may "options" (fields [may "ignoreCase" bool])])]

/-- An operation on files that the server wants to hear of. -/
def fileOperation (name : String) : Field := may name (fields [must "filters" (list fileFilter)])

/-- What the server does for a workspace. -/
def workspace : Shape := fields [
  may "workspaceFolders"
    (fields [may "supported" bool, may "changeNotifications" (oneOf [bool, text])]),
  may "fileOperations" (fields (["didCreate", "willCreate", "didRename", "willRename", "didDelete",
    "willDelete"].map fileOperation))]

/-- What colours tokens. -/
def semanticTokens : Shape := members [
  progress,
  must "legend" (fields [must "tokenTypes" texts, must "tokenModifiers" texts]),
  may "range" bool,
  may "full" (oneOf [bool, members [may "delta" bool]])]

/-- What finds diagnostics when it is asked. -/
def diagnostics : Shape := members [
  may "identifier" text,
  must "interFileDependencies" bool,
  must "workspaceDiagnostics" bool,
  progress]

/-- All capabilities, in their order. -/
def shape : Shape := fields [
  may "positionEncoding" text,
  may "textDocumentSync" documentSync,
  may "selectionRangeProvider" plainSwitch,
  may "hoverProvider" plainSwitch,
  may "completionProvider" completion,
  may "signatureHelpProvider" signatureHelp,
  may "definitionProvider" plainSwitch,
  may "typeDefinitionProvider" registered,
  may "implementationProvider" registered,
  may "referencesProvider" plainSwitch,
  may "documentHighlightProvider" plainSwitch,
  may "documentSymbolProvider" (switch [may "label" text, progress]),
  may "workspaceSymbolProvider" (switch [progress, resolve]),
  may "codeActionProvider" (switch [may "codeActionKinds" texts, progress, resolve]),
  may "codeLensProvider" (fields [resolve]),
  may "documentFormattingProvider" plainSwitch,
  may "documentRangeFormattingProvider" plainSwitch,
  may "documentOnTypeFormattingProvider" typingFormat,
  may "renameProvider" (switch [may "prepareProvider" bool, progress]),
  may "documentLinkProvider" (members [resolve, progress]),
  may "colorProvider" registeredOrEmpty,
  may "foldingRangeProvider" registeredOrEmpty,
  may "declarationProvider" plainSwitch,
  may "executeCommandProvider" (members [must "commands" texts, progress]),
  may "workspace" workspace,
  may "callHierarchyProvider" plainSwitch,
  may "semanticTokensProvider" semanticTokens,
  may "monikerProvider" plainSwitch,
  may "linkedEditingRangeProvider" plainSwitch,
  may "inlineValueProvider" plainSwitch,
  may "inlayHintProvider" (switch [progress, resolve]),
  may "diagnosticProvider" diagnostics,
  may "experimental" (of Decoder.any)]

end AnalyzerClient.Protocol.Capabilities
