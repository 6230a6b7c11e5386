import AnalyzerClient.Text.Numeral
import AnalyzerClient.Text.Utf8

/-!
# Escapes

An octet that may not stand in a part of a URL is written as a percent sign and two hexadecimal
digits. Every part has its own set of characters that are escaped.
-/

namespace AnalyzerClient.Uri

open AnalyzerClient.Text

/-- An octet in upper case hexadecimal, behind a percent sign. -/
def escapeOctet (b : UInt8) : List Char :=
  ['%', (Nat.digitChar (b.toNat / 16)).toUpper, (Nat.digitChar (b.toNat % 16)).toUpper]

/-- Escapes the characters that are not printable ASCII and those in `extra`. -/
def escapeChars (extra : List Char) (cs : List Char) : List Char :=
  cs.flatMap fun c =>
    if c.toNat < 0x20 || 0x7E < c.toNat || extra.contains c then
      (String.utf8EncodeChar c).flatMap escapeOctet
    else [c]

/-- What is escaped in a fragment. -/
def fragmentEscapes : List Char := [' ', '"', '<', '>', Char.ofNat 96]

/-- What is escaped in a path. -/
def pathEscapes : List Char := fragmentEscapes ++ ['#', '?', '{', '}']

/-- What is escaped in a file name. -/
def fileNameEscapes : List Char := pathEscapes ++ ['/', '%', '\\']

/-- What is escaped in a user name and in a password. -/
def userEscapes : List Char :=
  pathEscapes ++ ['/', ':', ';', '=', '@', '[', '\\', ']', '^', '|']

/-- What is escaped in a query; in a query of a special scheme the apostrophe too. -/
def queryEscapes (special : Bool) : List Char :=
  [' ', '"', '<', '>', '#'] ++ if special then [Char.ofNat 39] else []

/-- The octets of a text whose escapes are undone. A percent sign without two hexadecimal digits
behind it stands for itself. -/
def unescape : List Char → List UInt8
  | [] => []
  | '%' :: a :: b :: cs =>
    match Numeral.hexValue? a, Numeral.hexValue? b with
    | some high, some low => UInt8.ofNat (16 * high + low) :: unescape cs
    | _, _ => String.utf8EncodeChar '%' ++ unescape (a :: b :: cs)
  | c :: cs => String.utf8EncodeChar c ++ unescape cs

end AnalyzerClient.Uri
