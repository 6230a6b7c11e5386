/-!
# Blank characters, trimming and words

A character is blank when it has the Unicode property White_Space. Trimming removes blanks from the
ends of a text, and words are its maximal pieces without blanks.
-/

namespace AnalyzerClient.Text

/-- The code points with the property White_Space, as closed ranges in increasing order. -/
def blankRanges : List (Nat × Nat) :=
  [(0x09, 0x0D), (0x20, 0x20), (0x85, 0x85), (0xA0, 0xA0), (0x1680, 0x1680), (0x2000, 0x200A),
    (0x2028, 0x2029), (0x202F, 0x202F), (0x205F, 0x205F), (0x3000, 0x3000)]

/-- Whether a character has the property White_Space. -/
def isBlank (c : Char) : Bool :=
  blankRanges.any fun (low, high) => low ≤ c.toNat && c.toNat ≤ high

theorem isBlank_of_isWhitespace {c : Char} (h : c.isWhitespace = true) : isBlank c = true := by
  simp only [Char.isWhitespace, Bool.or_eq_true, decide_eq_true_eq] at h
  rcases h with ((rfl | rfl) | rfl) | rfl <;> decide

namespace Chars

/-- Without the blanks in front. -/
def trimStart (s : List Char) : List Char := s.dropWhile isBlank

/-- Without the blanks at the end. -/
def trimEnd (s : List Char) : List Char := (s.reverse.dropWhile isBlank).reverse

/-- Without the blanks at both ends. -/
def trim (s : List Char) : List Char := trimEnd (trimStart s)

/-- The pieces between the characters that satisfy `p`; there is one more than there are such
characters, and a piece may be empty. -/
def pieces (p : Char → Bool) : List Char → List (List Char)
  | [] => [[]]
  | c :: s =>
    match pieces p s with
    | [] => [[]]
    | piece :: rest => if p c then [] :: piece :: rest else (c :: piece) :: rest

/-- The words of a text: its pieces between blanks, without the empty ones. -/
def words (s : List Char) : List (List Char) := (pieces isBlank s).filter (!·.isEmpty)

/-- What stands before and after the first `sep`, if there is one. -/
def splitOnce (sep : Char) : List Char → Option (List Char × List Char)
  | [] => none
  | c :: s =>
    if c = sep then some ([], s)
    else (splitOnce sep s).map fun (before, after) => (c :: before, after)

end Chars

/-- Without the blanks in front. -/
def trimStart (s : String) : String := String.ofList (Chars.trimStart s.toList)

/-- Without the blanks at both ends. -/
def trim (s : String) : String := String.ofList (Chars.trim s.toList)

/-- The words of a text, between blanks. -/
def words (s : String) : List String := (Chars.words s.toList).map String.ofList

/-- Whether a text holds blanks only. -/
def isBlankText (s : String) : Bool := s.toList.all isBlank

/-- Whether two texts agree when the case of ASCII letters is ignored. -/
def eqIgnoringCase (s t : String) : Bool :=
  s.toList.map Char.toLower == t.toList.map Char.toLower

/-- Whether `start` begins the text `s`. -/
def startsWith (start s : String) : Bool := start.toList.isPrefixOf s.toList

end AnalyzerClient.Text
