import AnalyzerClient.Json.Decoder
import AnalyzerClient.OsError
import AnalyzerClient.Runnable.Target
import AnalyzerClient.Text.Line

/-!
# The output of a build

The build tool reports every artifact on a line of JSON. `Scan.findExecutable` reads lines up to the
first artifact that passes a filter and has an executable; other lines do not count. On the other
stream the build tool reports its progress.
-/

namespace AnalyzerClient

open AnalyzerClient.Json (Decoder Record)

/-- The fields of an artifact. -/
def Artifact.record : Record Artifact :=
  Artifact.mk <$> .defaulted "kind" (Decoder.list Decoder.string) []
    <*> .defaulted "name" Decoder.string ""

/-- A line of the build tool's report. -/
structure BuildMessage where
  reason : String
  artifact : Artifact
  executable : Option String
  deriving DecidableEq, Repr

namespace BuildMessage

/-- The reason of messages about artifacts. -/
def artifactReason : String := "compiler-artifact"

/-- The fields of a message. -/
def record : Record BuildMessage :=
  BuildMessage.mk <$> .required "reason" Decoder.string
    <*> .defaulted "target" Artifact.record.decode ⟨[], ""⟩
    <*> .defaultedOptional "executable" Decoder.string

/-- Reads a message from a line. -/
def ofText (line : String) : Except Json.Fault BuildMessage := Decoder.ofText record.decode line

/-- The executable of a message about an artifact that passes a filter. -/
def executableFor (m : BuildMessage) (filter : ArtifactFilter) : Option String :=
  if m.reason == artifactReason && filter.accepts m.artifact then m.executable.filter (· != "")
  else none

end BuildMessage

/-- What a line of the report means for the search. -/
inductive LineMeaning where
  /-- The line holds the executable. -/
  | executable (path : String)
  /-- The line is no text. -/
  | unreadable (e : Text.Utf8.Error)
  /-- The line is no message at all, and a warning is given. -/
  | malformed
  /-- The line does not matter. -/
  | noise
  deriving DecidableEq, Repr

namespace LineMeaning

/-- The meaning of the octets of a line. -/
def ofLine (filter : ArtifactFilter) (line : List UInt8) : LineMeaning :=
  match Text.Line.text line with
  | .error e => .unreadable e
  | .ok text =>
    if Text.isBlankText text then .noise
    else
      match BuildMessage.ofText text with
      | .error _ => .malformed
      | .ok m =>
        match m.executableFor filter with
        | some path => .executable path
        | none => .noise

end LineMeaning

/-- Why a search finds no executable. -/
inductive ScanFailure where
  /-- The report ended. -/
  | notFound
  /-- A line is no text. -/
  | unreadable (e : Text.Utf8.Error)
  deriving DecidableEq, Repr

/-- What came of a search: the executable or why there is none, the number of malformed lines, and
the octets that were not read. -/
structure ScanResult where
  outcome : Except ScanFailure String
  skipped : Nat
  rest : List UInt8

namespace Scan

/-- Searches octets for an executable line by line; `skipped` lines were malformed before. -/
def findFrom (filter : ArtifactFilter) (skipped : Nat) (octets : List UInt8) : ScanResult :=
  match h : Text.Line.next? octets with
  | none => ⟨.error .notFound, skipped, []⟩
  | some (line, rest) =>
    have : rest.length < octets.length := Text.Line.length_next? h
    match LineMeaning.ofLine filter line with
    | .executable path => ⟨.ok path, skipped, rest⟩
    | .unreadable e => ⟨.error (.unreadable e), skipped, rest⟩
    | .malformed => findFrom filter (skipped + 1) rest
    | .noise => findFrom filter skipped rest
  termination_by octets.length

/-- Searches octets for an executable. -/
def findExecutable (filter : ArtifactFilter) (octets : List UInt8) : ScanResult :=
  findFrom filter 0 octets

/-- How many lines can be read up to the end or the first line that is no text. -/
def readableLines (octets : List UInt8) : Nat :=
  match h : Text.Line.next? octets with
  | none => 0
  | some (line, rest) =>
    have : rest.length < octets.length := Text.Line.length_next? h
    match Text.Line.text line with
    | .error _ => 0
    | .ok _ => readableLines rest + 1
  termination_by octets.length

/-- What is never read of a report. Behind a search the lines are read on, so that the build tool
can write the rest of its report, but only through the first line that is no text. -/
def unread (filter : ArtifactFilter) (octets : List UInt8) : List UInt8 :=
  (Text.Line.readTexts (findExecutable filter octets).rest).rest

end Scan

/-- The progress that a build reports: its lines without the blanks in front, up to the end or the
first line that is no text. Blank lines do not count. -/
def progressOf (octets : List UInt8) : List String × Option Text.Utf8.Error :=
  match h : Text.Line.next? octets with
  | none => ([], none)
  | some (line, rest) =>
    have : rest.length < octets.length := Text.Line.length_next? h
    match Text.Line.text line with
    | .error e => ([], some e)
    | .ok text =>
      let (statuses, error) := progressOf rest
      let status := Text.trimStart text
      (if status.isEmpty then statuses else status :: statuses, error)
  termination_by octets.length

/-- What is never read of the octets in which a build reports its progress. -/
def unreadProgress (octets : List UInt8) : List UInt8 := (Text.Line.readTexts octets).rest

end AnalyzerClient
