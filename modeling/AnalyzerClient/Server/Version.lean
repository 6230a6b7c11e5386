import AnalyzerClient.Process
import AnalyzerClient.Protocol.Error
import AnalyzerClient.Text.Blank
import AnalyzerClient.Text.Numeral

/-!
# Versions of the server

A version is three numbers. It is found in a text as the first token that begins with two numbers
separated by a point.
-/

namespace AnalyzerClient.Server

open AnalyzerClient.Text

/-- A version: the numbers count in this order. -/
structure Version where
  major : Nat
  minor : Nat
  patch : Nat
  deriving DecidableEq, Repr

namespace Version

/-- The text of a version. -/
def render (v : Version) : String :=
  Numeral.render v.major ++ "." ++ Numeral.render v.minor ++ "." ++ Numeral.render v.patch

/-- How two versions are ordered. -/
def compare (a b : Version) : Ordering :=
  (Ord.compare a.major b.major).then
    ((Ord.compare a.minor b.minor).then (Ord.compare a.patch b.patch))

/-- Whether an installed version is older than the one that is required. -/
def needsUpgrade (installed required : Version) : Bool := compare installed required == .lt

/-- What separates the tokens of a text. -/
def separates (c : Char) : Bool := isBlank c || c = '(' || c = ')'

/-- The version that a token begins with: two numbers, and the digits that begin the third part. -/
def ofToken? (token : List Char) : Option Version :=
  match Chars.pieces (· = '.') (token.dropWhile (· = 'v')) with
  | major :: minor :: rest => do
    let major ← Numeral.readWord? major
    let minor ← Numeral.readWord? minor
    let patch := (rest.head?.bind fun part =>
      Numeral.readWord? (part.takeWhile Numeral.isDigit)).getD 0
    return ⟨major, minor, patch⟩
  | _ => none

/-- The first version in a text. -/
def find? (text : List Char) : Option Version := (Chars.pieces separates text).findSome? ofToken?

/-- The first version in a text. -/
def ofText? (text : String) : Option Version := find? text.toList

end Version

/-- How a binary is asked for its version. -/
def versionSpec (binary : String) : ProcessSpec := { program := binary, args := ["--version"] }

/-- The version that a binary tells, as a text. -/
def toldVersion (binary : String) (run : Except OsError ProgramRun) :
    Except Protocol.Error String :=
  match run with
  | .error cause => .error (.spawn binary cause)
  | .ok run =>
    if run.status = 0 then .ok (trim (Utf8.decodeLossy run.stdout))
    else .error (.protocol (.noVersion binary ("exit status: " ++ Numeral.renderInt run.status)))

end AnalyzerClient.Server
