import AnalyzerClient.Binary64.Shortest
import AnalyzerClient.Json.Value
import AnalyzerClient.Text.Numeral

/-!
# Writing JSON

The compact form has no blanks outside of strings. The pretty form puts every item and every member
on a line of its own, indented by two spaces for each level, except that an empty array or object is
written as in the compact form.
-/

namespace AnalyzerClient.Json

open AnalyzerClient.Text

/-- Floating-point numbers are positional from five places after the point to sixteen before it. -/
def floatLayout : Binary64.Layout := ⟨-5, 15⟩

/-- The text of a number. -/
def Number.render : Number → List Char
  | .int n => (Numeral.renderInt n).toList
  | .float x => x.render floatLayout

/-- A hexadecimal digit, in lower case. -/
def hexDigit (n : Nat) : Char := Nat.digitChar n

/-- A character inside a string. Quotes, backslashes and control characters below U+0020 are
escaped. -/
def escape (c : Char) : List Char :=
  if c = '"' then ['\\', '"']
  else if c = '\\' then ['\\', '\\']
  else if c = '\n' then ['\\', 'n']
  else if c = '\r' then ['\\', 'r']
  else if c = '\t' then ['\\', 't']
  else if c.toNat = 0x08 then ['\\', 'b']
  else if c.toNat = 0x0C then ['\\', 'f']
  else if c.toNat < 0x20 then
    ['\\', 'u', '0', '0', hexDigit (c.toNat / 16), hexDigit (c.toNat % 16)]
  else [c]

/-- A string with its quotes. -/
def quote (s : String) : List Char := '"' :: s.toList.flatMap escape ++ ['"']

mutual

/-- The compact form of a value. -/
def compactChars : Json → List Char
  | .null => ['n', 'u', 'l', 'l']
  | .bool true => ['t', 'r', 'u', 'e']
  | .bool false => ['f', 'a', 'l', 's', 'e']
  | .number n => n.render
  | .string s => quote s
  | .array items => '[' :: compactItems items ++ [']']
  | .object members => '{' :: compactMembers members ++ ['}']

/-- Items in compact form, with commas between them. -/
def compactItems : List Json → List Char
  | [] => []
  | [v] => compactChars v
  | v :: vs => compactChars v ++ ',' :: compactItems vs

/-- Members in compact form, with commas between them. -/
def compactMembers : List (String × Json) → List Char
  | [] => []
  | [(k, v)] => quote k ++ ':' :: compactChars v
  | (k, v) :: ms => quote k ++ ':' :: compactChars v ++ ',' :: compactMembers ms

end

/-- The beginning of a line that is indented by so many levels. -/
def newline (level : Nat) : List Char := '\n' :: List.replicate (2 * level) ' '

mutual

/-- The pretty form of a value that stands at a level. -/
def prettyChars (level : Nat) : Json → List Char
  | .null => ['n', 'u', 'l', 'l']
  | .bool true => ['t', 'r', 'u', 'e']
  | .bool false => ['f', 'a', 'l', 's', 'e']
  | .number n => n.render
  | .string s => quote s
  | .array items =>
    if items.isEmpty then ['[', ']']
    else '[' :: prettyItems (level + 1) items ++ newline level ++ [']']
  | .object members =>
    if members.isEmpty then ['{', '}']
    else '{' :: prettyMembers (level + 1) members ++ newline level ++ ['}']

/-- Items in pretty form, each on a new line at a level. -/
def prettyItems (level : Nat) : List Json → List Char
  | [] => []
  | [v] => newline level ++ prettyChars level v
  | v :: vs => newline level ++ prettyChars level v ++ ',' :: prettyItems level vs

/-- Members in pretty form, each on a new line at a level. -/
def prettyMembers (level : Nat) : List (String × Json) → List Char
  | [] => []
  | [(k, v)] => newline level ++ quote k ++ ':' :: ' ' :: prettyChars level v
  | (k, v) :: ms =>
    newline level ++ quote k ++ ':' :: ' ' :: prettyChars level v ++ ',' :: prettyMembers level ms

end

/-- The compact form of a value. -/
def compact (v : Json) : String := String.ofList v.compactChars

/-- The pretty form of a value. -/
def pretty (v : Json) : String := String.ofList (v.prettyChars 0)

end AnalyzerClient.Json
