/-!
# What can be wrong with a JSON text

A fault has a category and a place. The place is the number of characters that stand after the
offending one, so that it does not depend on where in a larger text the reader began.
-/

namespace AnalyzerClient.Json

/-- The kind of a fault. -/
inductive Category where
  /-- A character that cannot stand where it stands. -/
  | malformed
  /-- The text ended too early. -/
  | ended
  /-- The text is well-formed, but its value has the wrong shape. -/
  | mismatch
  deriving DecidableEq, Repr

/-- A fault of a text, with the number of characters behind it. -/
structure Fault where
  category : Category
  left : Nat
  deriving DecidableEq, Repr

/-- A value of the wrong shape. -/
def Fault.mismatch : Fault := ⟨.mismatch, 0⟩

/-- The line of a fault in its text, counted from one: newlines up to and including the offending
character count. -/
def Fault.line (f : Fault) (text : List Char) : Nat :=
  1 + (text.take (text.length - f.left)).count '\n'

end AnalyzerClient.Json
