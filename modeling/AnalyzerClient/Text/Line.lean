import AnalyzerClient.Text.Utf8

/-!
# Lines of a stream of octets

A line ends with a newline, which belongs to the octets of the line but not to its text; one
carriage return before the newline is dropped with it. What follows the last newline is a line too,
unless it is empty.
-/

namespace AnalyzerClient.Text.Line

/-- The octets up to the first newline, which is included, and those after it. -/
def split : List UInt8 → List UInt8 × List UInt8
  | [] => ([], [])
  | b :: bs =>
    if b = 10 then ([b], bs)
    else
      let (line, rest) := split bs
      (b :: line, rest)

theorem length_split_snd (bs : List UInt8) : (split bs).2.length ≤ bs.length := by
  induction bs with
  | nil => simp [split]
  | cons b bs ih =>
    unfold split
    split
    · simp
    · simp; omega

/-- The first line of a stream that is not empty, and the rest of the stream. -/
def next? (bs : List UInt8) : Option (List UInt8 × List UInt8) :=
  if bs.isEmpty then none else some (split bs)

theorem length_next? {bs line rest : List UInt8} (h : next? bs = some (line, rest)) :
    rest.length < bs.length := by
  cases bs with
  | nil => simp [next?] at h
  | cons b bs =>
    simp only [next?, List.isEmpty_cons, Bool.false_eq_true, ↓reduceIte, Option.some.injEq] at h
    unfold split at h
    split at h
    · cases h; simp
    · cases h
      have := length_split_snd bs
      simp; omega

/-- The octets of a line without the newline that ends it and one carriage return before that. -/
def chomp (line : List UInt8) : List UInt8 :=
  match line.reverse with
  | 10 :: 13 :: r => r.reverse
  | 10 :: r => r.reverse
  | _ => line

/-- The text of the octets of a line, or why they are no text. -/
def text (line : List UInt8) : Except Utf8.Error String := Utf8.decode (chomp line)

/-- What comes of reading the lines of a stream as texts: the texts, what is wrong with the line
that is none, and the octets behind that line. -/
structure Texts where
  texts : List String
  error : Option Utf8.Error
  rest : List UInt8

/-- Reads the lines of a stream as texts, up to the end or through the first line that is none. -/
def readTexts (bs : List UInt8) : Texts :=
  match h : next? bs with
  | none => ⟨[], none, []⟩
  | some (line, rest) =>
    have : rest.length < bs.length := length_next? h
    match text line with
    | .error e => ⟨[], some e, rest⟩
    | .ok s =>
      let behind := readTexts rest
      { behind with texts := s :: behind.texts }
  termination_by bs.length

end AnalyzerClient.Text.Line
