import AnalyzerClient.Settings.Comment
import Mathlib.Data.List.TakeWhile

/-!
# The pieces of a settings text

A settings text is cut into comments, strings and the single characters between them (`pieces`): a
string goes up to its closing quote, a line comment up to the end of its line, and a block comment
up to the first `*/`. Nothing is lost by the cutting (`flatMap_chars_pieces`), and the scan that
drops comments keeps all pieces but these (`stripComments_eq`).
-/

namespace AnalyzerClient.Settings

/-! ## Strings and block comments -/

/-- Cuts a text behind the string that it is inside of. A character that is escaped does not close
the string. -/
def cutString : List Char → List Char × List Char
  | [] => ([], [])
  | '"' :: cs => (['"'], cs)
  | '\\' :: c :: cs => ('\\' :: c :: (cutString cs).1, (cutString cs).2)
  | c :: cs => (c :: (cutString cs).1, (cutString cs).2)

/-- Cuts a text behind the block comment that it is inside of. -/
def cutBlock : List Char → List Char × List Char
  | [] => ([], [])
  | '*' :: '/' :: cs => (['*', '/'], cs)
  | c :: cs => (c :: (cutBlock cs).1, (cutBlock cs).2)

-- The equations are generated here, once, so that no proof waits for another to do it.
attribute [grind =] cutString cutBlock stripFrom

theorem cutString_append (cs : List Char) : (cutString cs).1 ++ (cutString cs).2 = cs := by
  fun_induction cutString cs with
  | case1 | case2 => rfl
  | case3 c cs ih | case4 c cs _ _ ih => simp [ih]

theorem cutBlock_append (cs : List Char) : (cutBlock cs).1 ++ (cutBlock cs).2 = cs := by
  fun_induction cutBlock cs with
  | case1 | case2 => rfl
  | case3 c cs _ ih => simp [ih]

/-- The string that a text was cut at stands in any text that begins with it, unless the text ended
inside of it. -/
theorem cutString_cut {cs rest : List Char} (h : (cutString cs).2 = [] → rest = []) :
    cutString ((cutString cs).1 ++ rest) = ((cutString cs).1, rest) := by
  fun_induction cutString cs with
  | case1 => rw [h rfl]; rfl
  | case2 cs => rfl
  | case3 c cs ih =>
    rw [List.cons_append, List.cons_append, cutString, ih h]
  | case4 c cs hquote hslash ih =>
    cases cs with
    | nil =>
      rw [h rfl]
      exact cutString.eq_4 c [] hquote fun _ _ _ h => absurd h.symm (List.cons_ne_nil _ _)
    | cons c' cs => rw [List.cons_append, cutString, ih h] <;> grind

theorem length_cutString (cs : List Char) : (cutString cs).2.length ≤ cs.length := by
  have h := congrArg List.length (cutString_append cs)
  rw [List.length_append] at h
  omega

theorem length_cutBlock (cs : List Char) : (cutBlock cs).2.length ≤ cs.length := by
  have h := congrArg List.length (cutBlock_append cs)
  rw [List.length_append] at h
  omega

/-! ## Pieces -/

/-- A piece of a settings text, with all of its characters. -/
inductive Piece where
  /-- A character outside of strings and comments. -/
  | char (c : Char)
  | string (text : List Char)
  /-- Without the newline behind it. -/
  | lineComment (text : List Char)
  | blockComment (text : List Char)
  deriving DecidableEq, Repr

namespace Piece

/-- The characters of a piece. -/
def chars : Piece → List Char
  | .char c => [c]
  | .string text | .lineComment text | .blockComment text => text

/-- Whether a piece is a comment. -/
def isComment : Piece → Bool
  | .lineComment _ | .blockComment _ => true
  | _ => false

/-- What stands for a piece when `filler` stands for every comment. -/
def fill (filler : List Char) (p : Piece) : List Char := if p.isComment then filler else p.chars

end Piece

/-- Cuts a text into its pieces. -/
def pieces : List Char → List Piece
  | [] => []
  | '"' :: cs => .string ('"' :: (cutString cs).1) :: pieces (cutString cs).2
  | '/' :: '/' :: cs =>
    .lineComment ('/' :: '/' :: cs.takeWhile (· ≠ '\n')) :: pieces (cs.dropWhile (· ≠ '\n'))
  | '/' :: '*' :: cs => .blockComment ('/' :: '*' :: (cutBlock cs).1) :: pieces (cutBlock cs).2
  | c :: cs => .char c :: pieces cs
termination_by cs => cs.length
decreasing_by
  · exact Nat.lt_succ_of_le (length_cutString cs)
  · have hline : (cs.dropWhile (· ≠ '\n')).length ≤ cs.length :=
      (List.dropWhile_sublist _).length_le
    simp only [List.length_cons]
    omega
  · have hblock := length_cutBlock cs
    simp only [List.length_cons]
    omega
  · exact Nat.lt_succ_self _

/-- A text with `filler` in the place of every comment. -/
def fillComments (filler text : List Char) : List Char := (pieces text).flatMap (Piece.fill filler)

-- The equations are generated here, once, so that no proof waits for another to do it.
attribute [grind =] Piece.chars pieces

/-- The pieces of a text are the text. -/
theorem flatMap_chars_pieces (text : List Char) : (pieces text).flatMap Piece.chars = text := by
  fun_induction pieces text with
  | case1 => rfl
  | case2 cs ih =>
    rw [List.flatMap_cons, ih, Piece.chars, List.cons_append, cutString_append]
  | case3 cs ih =>
    rw [List.flatMap_cons, ih, Piece.chars, List.cons_append, List.cons_append,
      List.takeWhile_append_dropWhile]
  | case4 cs ih =>
    rw [List.flatMap_cons, ih, Piece.chars, List.cons_append, List.cons_append, cutBlock_append]
  | case5 c cs _ _ _ ih => rw [List.flatMap_cons, ih]; rfl

/-- A line comment does not go over the end of its line. -/
theorem not_mem_of_lineComment {text cs : List Char} (h : .lineComment cs ∈ pieces text) :
    '\n' ∉ cs := by
  fun_induction pieces text with
  | case1 => cases h
  | case2 _ ih | case4 _ ih | case5 _ _ _ _ _ ih =>
    rcases List.mem_cons.mp h with h | h
    · cases h
    · exact ih h
  | case3 cs' ih =>
    rcases List.mem_cons.mp h with h | h
    · cases h
      intro hmem
      rcases List.mem_cons.mp hmem with h | hmem
      · cases h
      rcases List.mem_cons.mp hmem with h | hmem
      · cases h
      have hline := List.mem_takeWhile_imp hmem
      simp at hline
    · exact ih h

/-! ## The scan -/

theorem stripFrom_string (cs : List Char) :
    stripFrom (.string false) cs = (cutString cs).1 ++ stripFrom .plain (cutString cs).2 := by
  fun_induction cutString cs with
  | case1 => rfl
  | case2 cs => rfl
  | case3 c cs ih => simp [stripFrom, ih]
  | case4 c cs hquote hslash ih =>
    have hc : c ≠ '"' := hquote
    cases cs with
    | nil => simp [stripFrom, cutString]
    | cons c' cs =>
      have hs : c ≠ '\\' := fun h => hslash c' cs h rfl
      rw [stripFrom, if_neg (by decide), if_neg hs, if_neg hc, ih]
      rfl

theorem stripFrom_line (cs : List Char) :
    stripFrom .lineComment cs = stripFrom .plain (cs.dropWhile (· ≠ '\n')) := by
  induction cs with
  | nil => rfl
  | cons c cs ih =>
    by_cases hc : c = '\n'
    · subst hc
      rfl
    · rw [stripFrom, if_neg hc, ih, List.dropWhile_cons_of_pos (by simpa using hc)]

/-- A star that was seen may be the first half of the closing mark. -/
theorem stripFrom_block (cs : List Char) :
    stripFrom (.blockComment false) cs = stripFrom .plain (cutBlock cs).2 ∧
      stripFrom (.blockComment true) cs = stripFrom .plain (cutBlock ('*' :: cs)).2 := by
  induction cs with
  | nil => exact ⟨rfl, rfl⟩
  | cons c cs ih =>
    have hopen (star : Bool) (h : (star && c = '/') = false) :
        stripFrom (.blockComment star) (c :: cs) = stripFrom .plain (cutBlock (c :: cs)).2 := by
      rw [stripFrom, h, if_neg (by decide)]
      by_cases hc : c = '*'
      · subst hc
        exact ih.2
      · rw [decide_eq_false hc, ih.1, cutBlock]
        exact fun _ h _ => hc h
    refine ⟨hopen false rfl, ?_⟩
    by_cases hc : c = '/'
    · subst hc
      rfl
    · rw [hopen true (by simp [hc]), cutBlock.eq_3 _ _ (fun _ _ h => hc (List.cons.inj h).1)]

/-- The scan keeps all pieces of a text but the comments. -/
theorem stripComments_eq (text : List Char) : stripComments text = fillComments [] text := by
  rw [stripComments, fillComments]
  fun_induction pieces text with
  | case1 => rfl
  | case2 cs ih =>
    have hopen : stripFrom .plain ('"' :: cs) = '"' :: stripFrom (.string false) cs := rfl
    rw [List.flatMap_cons, ← ih, hopen, stripFrom_string]
    rfl
  | case3 cs ih =>
    have hopen : stripFrom .plain ('/' :: '/' :: cs) = stripFrom .lineComment cs := rfl
    rw [List.flatMap_cons, ← ih, hopen, stripFrom_line]
    rfl
  | case4 cs ih =>
    have hopen : stripFrom .plain ('/' :: '*' :: cs) = stripFrom (.blockComment false) cs := rfl
    rw [List.flatMap_cons, ← ih, hopen, (stripFrom_block cs).1]
    rfl
  | case5 c cs hquote hline hblock ih =>
    have hc : c ≠ '"' := hquote
    rw [List.flatMap_cons, ← ih, stripFrom, if_neg hc]
    · rfl
    · exact hline
    · exact hblock

end AnalyzerClient.Settings
