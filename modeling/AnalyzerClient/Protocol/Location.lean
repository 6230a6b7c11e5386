import AnalyzerClient.Json.Decoder
import AnalyzerClient.Text.Blank
import AnalyzerClient.Uri
import AnalyzerClient.Word

/-!
# Places in documents

Positions are counted from zero, in lines and in UTF-16 units of a line.
-/

namespace AnalyzerClient.Protocol

open AnalyzerClient.Json (Decoder Record)

/-- A member of an object that is left out when there is no value. -/
def member? {α : Type} (name : String) (toJson : α → Json) (value : Option α) :
    List (String × Json) :=
  (value.map fun a => (name, toJson a)).toList

/-- A position in a document. -/
structure Position where
  line : Nat
  character : Nat
  deriving DecidableEq, Repr, Inhabited

/-- A part of a document. -/
structure Range where
  start : Position
  stop : Position
  deriving DecidableEq, Repr, Inhabited

/-- A place in a document that something links to. -/
structure LocationLink where
  originRange : Option Range
  uri : Uri
  range : Range
  selection : Range
  deriving DecidableEq, Repr

namespace Position

/-- The value of a position. -/
def toJson (p : Position) : Json :=
  .mkObject [("line", .ofNat p.line), ("character", .ofNat p.character)]

/-- The position that a user names by a line and a column, which count from one. -/
def ofCursor (line column : Nat) : Position := ⟨line - 1, column - 1⟩

/-- Which number of a position has no successor of 32 bits. -/
inductive Overflow where
  | line
  | character
  deriving DecidableEq, Repr

/-- A line and a column as the user reads them. -/
def pairText (line column : Nat) : String :=
  Text.Numeral.render line ++ ":" ++ Text.Numeral.render column

/-- A position as the user reads it, who counts from one. The line is counted first. -/
def shown (p : Position) : Except Overflow String :=
  if p.line + 1 < Word.count32 then
    if p.character + 1 < Word.count32 then .ok (pairText (p.line + 1) (p.character + 1))
    else .error .character
  else .error .line

/-- The members of a position in the order in which people read them. -/
def written (p : Position) : Json :=
  .object [("line", .ofNat p.line), ("character", .ofNat p.character)]

/-- The fields of a position. -/
def record : Record Position :=
  Position.mk <$> .required "line" Decoder.nat32 <*> .required "character" Decoder.nat32

/-- Decodes a position. -/
def decode : Decoder Position := record.decode

end Position

namespace Range

/-- The value of a range. -/
def toJson (r : Range) : Json := .mkObject [("start", r.start.toJson), ("end", r.stop.toJson)]

/-- The members of a range in the order in which people read them. -/
def written (r : Range) : Json := .object [("start", r.start.written), ("end", r.stop.written)]

/-- The fields of a range. -/
def record : Record Range :=
  Range.mk <$> .required "start" Position.decode <*> .required "end" Position.decode

/-- Decodes a range. -/
def decode : Decoder Range := record.decode

end Range

/-- Decodes a URL. -/
def decodeUri : Decoder Uri := fun d => do
  let text ← Decoder.string d
  match Uri.parse? text with
  | some uri => .ok uri
  | none => .error .mismatch

/-- The value of a URL. -/
def uriToJson (uri : Uri) : Json := .string uri.text

namespace LocationLink

/-- The value of a link. -/
def toJson (l : LocationLink) : Json :=
  .mkObject <| member? "originSelectionRange" Range.toJson l.originRange ++ [
    ("targetUri", uriToJson l.uri),
    ("targetRange", l.range.toJson),
    ("targetSelectionRange", l.selection.toJson)]

/-- The fields of a link. -/
def record : Record LocationLink :=
  LocationLink.mk <$> .optional "originSelectionRange" Range.decode
    <*> .required "targetUri" decodeUri
    <*> .required "targetRange" Range.decode
    <*> .required "targetSelectionRange" Range.decode

/-- Decodes a link. -/
def decode : Decoder LocationLink := record.decode

end LocationLink

end AnalyzerClient.Protocol
