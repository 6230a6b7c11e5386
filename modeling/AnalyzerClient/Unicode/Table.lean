import AnalyzerClient.Text.Blank
import AnalyzerClient.Text.Numeral

/-!
# Tables of properties of characters

A table is a list of lines with items between blanks; code points are written in hexadecimal. An
item of a set is a span of code points, such as `61` or `61-7A`. An item of a map is an entry: it
says what the code points of a span are mapped to. All tables are those of Unicode 18.0.
-/

namespace AnalyzerClient.Unicode

open AnalyzerClient.Text

/-- The code points from the first to the last. -/
structure Span where
  first : Nat
  last : Nat
  deriving Repr

namespace Span

/-- Whether a code point belongs to a span. -/
def contains (s : Span) (n : Nat) : Bool := s.first ≤ n && n ≤ s.last

/-- Reads a span. -/
def ofChars? (item : List Char) : Option Span :=
  match Chars.splitOnce '-' item with
  | none => do
    let n ← Numeral.hex? item
    return ⟨n, n⟩
  | some (first, last) => do return ⟨← Numeral.hex? first, ← Numeral.hex? last⟩

end Span

/-- The items of the lines of a table. -/
def items (lines : List String) : List (List Char) :=
  lines.flatMap fun line => Chars.words line.toList

/-- Reads a set. -/
def spans (lines : List String) : List Span := (items lines).filterMap Span.ofChars?

/-- Whether a character belongs to a set. -/
def isIn (set : List Span) (c : Char) : Bool := set.any (·.contains c.toNat)

/-- What the code points of a span are mapped to. In `A-B=X.Y` it is the same for all of them, in
`A-B:X` the target of a code point is as far from `X` as the code point is from `A`, and in
`A-B/2:X` the same holds for every second code point. -/
structure Entry where
  span : Span
  stride : Nat
  shifts : Bool
  target : List Nat
  deriving Repr

namespace Entry

/-- Reads an entry. -/
def ofChars? (item : List Char) : Option Entry := do
  let isMark (c : Char) : Bool := c = '=' || c = ':'
  let target ← (Chars.pieces (· = '.') ((item.dropWhile (!isMark ·)).drop 1)).mapM Numeral.hex?
  let front := item.takeWhile (!isMark ·)
  let span ← Span.ofChars? (front.takeWhile (· != '/'))
  return ⟨span, if front.contains '/' then 2 else 1, item.contains ':', target⟩

/-- What a code point is mapped to. -/
def target? (e : Entry) (n : Nat) : Option (List Nat) :=
  if e.span.contains n && (n - e.span.first) % e.stride = 0 then
    some (if e.shifts then e.target.map (· + (n - e.span.first)) else e.target)
  else none

end Entry

/-- Reads a map. -/
def entries (lines : List String) : List Entry := (items lines).filterMap Entry.ofChars?

/-- What a map says of a character. -/
def find? (map : List Entry) (c : Char) : Option (List Nat) := map.findSome? (·.target? c.toNat)

end AnalyzerClient.Unicode
