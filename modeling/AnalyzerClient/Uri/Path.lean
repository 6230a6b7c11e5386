import AnalyzerClient.Text.Blank
import AnalyzerClient.Uri.Escape
import AnalyzerClient.Uri.Scheme

/-!
# Hierarchical paths

The path of a URL is a list of segments behind slashes. Its normal form has no segments that stand
for the present directory or for the one above. A drive letter is a root: no segment leads above it.
Tabs and line ends do not count, except behind a drive.
-/

namespace AnalyzerClient.Uri

open AnalyzerClient.Text

/-- Whether a segment stands for the present directory. -/
def isSingleDot (segment : List Char) : Bool :=
  [".", "%2e"].contains (String.ofList (segment.map Char.toLower))

/-- Whether a segment stands for the directory above. -/
def isDoubleDot (segment : List Char) : Bool :=
  ["..", ".%2e", "%2e.", "%2e%2e"].contains (String.ofList (segment.map Char.toLower))

/-- Whether a text is a drive: a letter and a colon, or a bar in the place of the colon. -/
def isDrive : List Char → Bool
  | [a, b] => a.isAlpha && (b = ':' || b = '|')
  | _ => false

/-- A drive at the beginning of a segment, with a break behind it, and the rest of the segment. -/
def splitDrive? (segment : List Char) : Option (List Char × List Char) :=
  match withoutBreaks segment with
  | a :: ':' :: rest =>
    let tail := segment.drop (segment.takeWhile (· != ':')).length.succ
    if isDrive [a, ':'] && tail.head?.any isBreak && !rest.isEmpty then some ([a, ':'], rest)
    else none
  | _ => none

/-- Whether a segment is a drive, or goes on with a backslash behind one. -/
def beginsWithDrive (segment : List Char) : Bool := isDrive (segment.takeWhile (· != '\\'))

/-- A path that is being read. -/
structure PathDraft where
  /-- The segments that are complete, in reverse. -/
  before : List (List Char) := []
  /-- The segment behind the last slash. -/
  last : List Char := []
  /-- Whether the path begins with a drive, which belongs to no host. -/
  hasDrive : Bool := false
  deriving Repr

namespace PathDraft

/-- Takes back the last complete segment, unless it is a drive. -/
def up (p : PathDraft) : PathDraft :=
  match p.before with
  | segment :: before => if beginsWithDrive segment then p else { p with before }
  | [] => p

/-- Adds a segment that does not stand for a directory. The first segment of a file path may be a
drive. A break behind a drive cuts off the rest of the segment, and such a drive keeps the host. -/
def add (scheme : Scheme) (p : PathDraft) (segment : List Char) : PathDraft :=
  let name := withoutBreaks segment
  let plain := { p with last := escapeChars pathEscapes name }
  if scheme = .file && p.before.isEmpty then
    if isDrive name then { p with last := name.take 1 ++ [':'], hasDrive := true }
    else
      match splitDrive? segment with
      | some (drive, rest) => { p with before := [drive], last := escapeChars pathEscapes rest }
      | none => plain
  else plain

/-- Makes the last segment complete. -/
def slash (p : PathDraft) : PathDraft := { p with before := p.last :: p.before, last := [] }

/-- Reads segments. -/
def read (scheme : Scheme) (p : PathDraft) : List (List Char) → PathDraft
  | [] => p
  | segment :: segments =>
    if isDoubleDot (withoutBreaks segment) then p.up.read scheme segments
    else if isSingleDot (withoutBreaks segment) then p.read scheme segments
    else if segments.isEmpty then p.add scheme segment
    else (p.add scheme segment).slash.read scheme segments

/-- Writes a path. A file path has one slash in front. -/
def render (scheme : Scheme) (p : PathDraft) : List Char :=
  let path := (p.last :: p.before).reverse.flatMap ('/' :: ·)
  if scheme = .file then '/' :: path.dropWhile (· = '/') else path

end PathDraft

/-- What follows a slash. -/
def behindSlash? (scheme : Scheme) (cs : List Char) : Option (List Char) :=
  match cs.dropWhile isBreak with
  | c :: rest => if scheme.isSlash c then some rest else none
  | [] => none

/-- Reads a path, in front of which a slash may be missing. -/
def readPath (scheme : Scheme) (cs : List Char) : PathDraft :=
  PathDraft.read scheme {} (Chars.pieces scheme.isSlash ((behindSlash? scheme cs).getD cs))

end AnalyzerClient.Uri
