import AnalyzerClient.Unicode.CombiningClass
import AnalyzerClient.Unicode.Composition

/-!
# Normal form C

Texts that look the same may be written in several ways. In normal form C characters are composed as
far as possible, and marks on the same character stand in the order of their classes.
-/

namespace AnalyzerClient.Unicode

/-- How often the first part of a composed character can be composed again. -/
def compositionDepth : Nat := 4

/-- Takes a character apart, and its parts, down to a depth. -/
def decomposeChar : (depth : Nat) → Char → List Char
  | 0, c => [c]
  | depth + 1, c =>
    match split? c with
    | none => [c]
    | some (a, b) => decomposeChar depth a ++ decomposeChar depth b

/-- Takes all characters of a text apart. -/
def decompose (cs : List Char) : List Char := cs.flatMap (decomposeChar compositionDepth)

/-- Puts a mark behind those of its own class and of lower ones. -/
def insertMark (c : Char) : List Char → List Char
  | [] => [c]
  | mark :: marks =>
    if combiningClass c < combiningClass mark then c :: mark :: marks
    else mark :: insertMark c marks

/-- Puts the marks on every character in the order of their classes; marks of one class stay as they
stand. `marks` are those before the text, in order. -/
def reorderFrom (marks : List Char) : List Char → List Char
  | [] => marks
  | c :: cs =>
    if combiningClass c = 0 then marks ++ c :: reorderFrom [] cs
    else reorderFrom (insertMark c marks) cs

/-- Puts the marks on every character in order. -/
def reorder (cs : List Char) : List Char := reorderFrom [] cs

/-- Whether the last of the marks behind a character keeps `c` away from that character. -/
def isBlocked (marks : List Char) (c : Char) : Bool :=
  match marks.getLast? with
  | some mark => combiningClass c ≤ combiningClass mark
  | none => false

/-- Composes `base` with what follows it; `marks` stand between them and do not compose. -/
def composeFrom (base : Char) (marks : List Char) : List Char → List Char
  | [] => base :: marks
  | c :: cs =>
    match if isBlocked marks c then none else compose? base c with
    | some composed => composeFrom composed marks cs
    | none =>
      if combiningClass c = 0 then base :: marks ++ composeFrom c [] cs
      else composeFrom base (marks ++ [c]) cs

/-- Composes the characters of a text. -/
def compose : List Char → List Char
  | [] => []
  | c :: cs => if combiningClass c = 0 then composeFrom c [] cs else c :: compose cs

/-- The normal form C of a text. -/
def normalForm (cs : List Char) : List Char := compose (reorder (decompose cs))

end AnalyzerClient.Unicode
