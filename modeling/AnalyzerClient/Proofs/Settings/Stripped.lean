import AnalyzerClient.Proofs.Settings.Comment
import AnalyzerClient.Proofs.Settings.Pieces

/-!
# What is left of a text without its comments

The pieces of a text that are no comments are the pieces of what the scan leaves of it
(`pieces_stripComments`): what stood around a comment never makes a new comment or another string.
So there is nothing to drop from what is left, and its strings are those of the text
(`stripComments_tidy`).
-/

namespace AnalyzerClient.Settings

variable {text cs : List Char} {c : Char}

/-- A comment begins where this text begins. -/
def OpensComment (cs : List Char) : Prop := ['/', '/'] <+: cs ∨ ['/', '*'] <+: cs

/-- The text of a string, with its quotes. -/
def Piece.literal? : Piece → Option (List Char)
  | .string text => some text
  | _ => none

/-- The strings of a text that do not stand inside of comments, in their order. -/
def literals (text : List Char) : List (List Char) := (pieces text).filterMap Piece.literal?

/-! ## Cutting what is left -/

/-- The scan keeps the first character of a text, unless this may begin a comment. -/
theorem head?_stripComments (h : cs.head? ≠ some '/') : (stripComments cs).head? = cs.head? := by
  cases cs with
  | nil => rfl
  | cons c cs =>
    by_cases hquote : c = '"'
    · subst hquote
      rfl
    · have hslash : c ≠ '/' := by simpa using h
      have hplain : stripComments (c :: cs) = c :: stripComments cs :=
        Plain.single (by simp [isHarmless, hslash, hquote]) cs
      rw [hplain]
      rfl

/-- A slash that begins no comment begins none in front of what is left behind it either. -/
theorem opensComment_stripComments (h : ¬ OpensComment ('/' :: cs)) :
    ¬ OpensComment ('/' :: stripComments cs) := by
  have hhead (s : List Char) :
      OpensComment ('/' :: s) ↔ s.head? = some '/' ∨ s.head? = some '*' := by
    cases s <;> simp [OpensComment, eq_comm]
  rw [hhead] at h ⊢
  rwa [head?_stripComments fun hslash => h (.inl hslash)]

/-- A character that begins neither a string nor a comment is a piece of its own. -/
theorem pieces_char (hquote : c ≠ '"') (hopens : c = '/' → ¬ OpensComment ('/' :: cs)) :
    pieces (c :: cs) = .char c :: pieces cs := by
  rw [pieces]
  · exact hquote
  · exact fun rest hc hcs => hopens hc (.inl ⟨rest, by rw [hcs]; rfl⟩)
  · exact fun rest hc hcs => hopens hc (.inr ⟨rest, by rw [hcs]; rfl⟩)

/-- What the scan leaves is cut into the pieces of the text that are no comments. -/
theorem pieces_stripComments (text : List Char) :
    pieces (stripComments text) = (pieces text).filter (!·.isComment) := by
  have hfill (cs : List Char) : (pieces cs).flatMap (Piece.fill []) = stripComments cs :=
    (stripComments_eq cs).symm
  rw [← hfill]
  fun_induction pieces text with
  | case1 => rw [List.flatMap_nil, pieces, List.filter_nil]
  | case2 cs ih =>
    -- a string that the text ends inside of has nothing behind it in what is left either
    have hend (h : (cutString cs).2 = []) : stripComments (cutString cs).2 = [] := by rw [h]; rfl
    rw [hfill] at ih
    rw [List.filter_cons_of_pos rfl, ← ih, List.flatMap_cons, hfill]
    show pieces ('"' :: ((cutString cs).1 ++ _)) = _
    rw [pieces, cutString_cut hend]
  | case3 cs ih | case4 cs ih => exact ih
  | case5 c cs hquote hline hblock ih =>
    have hopens (hc : c = '/') : ¬ OpensComment ('/' :: cs) := by
      rintro (⟨rest, hrest⟩ | ⟨rest, hrest⟩)
      · exact hline rest hc (List.cons.inj hrest).2.symm
      · exact hblock rest hc (List.cons.inj hrest).2.symm
    rw [hfill] at ih
    rw [List.filter_cons_of_pos rfl, ← ih, List.flatMap_cons, hfill]
    exact pieces_char hquote fun hc => opensComment_stripComments (hopens hc)

/-! ## What can be said of the pieces -/

/-- Behind any number of its pieces a text is cut as if it began there. -/
theorem exists_pieces_drop (text : List Char) (n : Nat) :
    ∃ cs, (pieces text).drop n = pieces cs := by
  cases n with
  | zero => exact ⟨text, rfl⟩
  | succ n =>
    fun_induction pieces text generalizing n with
    | case1 => exact ⟨[], by rw [List.drop_nil, pieces]⟩
    | case2 _ ih | case3 _ ih | case4 _ ih | case5 _ _ _ _ _ ih =>
      cases n with
      | zero => exact ⟨_, rfl⟩
      | succ n => exact ih n

/-- Where a comment begins, the first piece is one. -/
theorem exists_comment (h : OpensComment cs) : ∃ p ∈ pieces cs, p.isComment = true := by
  rcases h with ⟨rest, rfl⟩ | ⟨rest, rfl⟩ <;>
    rw [List.cons_append, List.singleton_append, pieces] <;>
    exact ⟨_, List.mem_cons_self, rfl⟩

theorem flatMap_fill_sublist (ps : List Piece) :
    (ps.flatMap (Piece.fill [])).Sublist (ps.flatMap Piece.chars) := by
  induction ps with
  | nil => exact .slnil
  | cons p ps ih =>
    rw [List.flatMap_cons, List.flatMap_cons]
    refine .append ?_ ih
    rw [Piece.fill]
    split
    · exact List.nil_sublist _
    · exact .refl _

/-- No piece of what is left is a comment. -/
theorem isComment_of_mem_stripComments {p : Piece} (h : p ∈ pieces (stripComments text)) :
    p.isComment = false := by
  rw [pieces_stripComments] at h
  simpa using (List.mem_filter.mp h).2

theorem stripComments_stripComments (text : List Char) :
    stripComments (stripComments text) = stripComments text := by
  have hkeep : (pieces (stripComments text)).flatMap (Piece.fill []) =
      (pieces (stripComments text)).flatMap Piece.chars := by
    refine congrArg List.flatten (List.map_congr_left fun p hp => ?_)
    rw [Piece.fill, isComment_of_mem_stripComments hp, if_neg (by decide)]
  rw [stripComments_eq (stripComments text), fillComments, hkeep, flatMap_chars_pieces]

theorem literals_stripComments (text : List Char) :
    literals (stripComments text) = literals text := by
  rw [literals, pieces_stripComments, List.filterMap_filter, literals]
  refine congrArg (List.filterMap · (pieces text)) (funext fun p => ?_)
  cases p <;> rfl

/-- Dropping the comments of any text, be it JSON or not, leaves nothing to drop: doing it again
changes nothing, and no comment begins at any place of what is left that is outside of strings. What
is left is the text without some of its characters, and it has the same strings. -/
theorem stripComments_tidy (text : List Char) :
    stripComments (stripComments text) = stripComments text ∧
      (stripComments text).Sublist text ∧
      (∀ n, ¬ OpensComment (((pieces (stripComments text)).drop n).flatMap Piece.chars)) ∧
      literals (stripComments text) = literals text := by
  refine ⟨stripComments_stripComments text, ?_, fun n hopens => ?_, literals_stripComments text⟩
  · have hsublist := flatMap_fill_sublist (pieces text)
    rwa [← fillComments, ← stripComments_eq, flatMap_chars_pieces] at hsublist
  · obtain ⟨cs, hcs⟩ := exists_pieces_drop (stripComments text) n
    rw [hcs, flatMap_chars_pieces] at hopens
    obtain ⟨p, hp, hcomment⟩ := exists_comment hopens
    rw [← hcs] at hp
    rw [isComment_of_mem_stripComments (List.mem_of_mem_drop hp)] at hcomment
    cases hcomment

/-- The slashes around a comment do not meet: one right in front of it would begin a comment. -/
example : String.ofList (stripComments "[1 / /**// 2, \"//\" /".toList) =
    "[1 / / 2, \"//\" /" := by
  decide +kernel

end AnalyzerClient.Settings
