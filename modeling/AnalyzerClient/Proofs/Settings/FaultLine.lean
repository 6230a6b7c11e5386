import AnalyzerClient.Proofs.Json.Located
import AnalyzerClient.Proofs.Settings.Pieces
import AnalyzerClient.Settings.Layer

/-!
# The line of a fault

The line of a fault is counted in the text without comments. The scan keeps the newline behind a
line comment but none of those inside of a block comment, so that the line is the one of the text as
it is written exactly when no block comment in front goes over several lines
(`Layer.ofText_line_iff`).
-/

namespace AnalyzerClient.Settings

variable {text front behind : List Char} {c : Char} {ps : List Piece}

/-- Among the pieces there is a block comment that goes over several lines. -/
def SpansLines (ps : List Piece) : Prop :=
  ∃ comment, .blockComment comment ∈ ps ∧ '\n' ∈ comment

/-- Only comments are dropped of the newlines. -/
theorem count_chars (ps : List Piece) : (ps.flatMap Piece.chars).count '\n' =
    (ps.flatMap (Piece.fill [])).count '\n' +
      ((ps.filter Piece.isComment).flatMap Piece.chars).count '\n' := by
  induction ps with
  | nil => rfl
  | cons p ps ih =>
    cases hp : p.isComment with
    | true =>
      rw [List.filter_cons_of_pos hp]
      simp only [List.flatMap_cons, List.count_append, Piece.fill, hp, if_true, List.count_nil, ih]
      omega
    | false =>
      rw [List.filter_cons_of_neg (by rw [hp]; decide)]
      simp only [List.flatMap_cons, List.count_append, Piece.fill, hp, ih]
      exact (Nat.add_assoc ..).symm

theorem count_fill_eq_iff (hps : ∀ cs, .lineComment cs ∈ ps → '\n' ∉ cs) :
    (ps.flatMap (Piece.fill [])).count '\n' = (ps.flatMap Piece.chars).count '\n' ↔
      ¬ SpansLines ps := by
  rw [count_chars, Nat.left_eq_add, List.count_eq_zero, SpansLines, not_iff_not]
  simp only [List.mem_flatMap, List.mem_filter]
  constructor
  · rintro ⟨p, ⟨hmem, hp⟩, hnewline⟩
    cases p with
    | char c => cases hp
    | string cs => cases hp
    | lineComment cs => exact absurd hnewline (hps cs hmem)
    | blockComment cs => exact ⟨cs, hmem, hnewline⟩
  · rintro ⟨cs, hmem, hnewline⟩
    exact ⟨.blockComment cs, ⟨hmem, rfl⟩, hnewline⟩

/-! ## Characters that are kept -/

/-- A character of a text that is not inside of a comment, with all that stands around it. -/
structure KeptChar (text : List Char) where
  front : List Piece
  piece : Piece
  back : List Piece
  before : List Char
  char : Char
  behind : List Char
  pieces_eq : pieces text = front ++ piece :: back
  chars_eq : piece.chars = before ++ char :: behind
  kept : piece.isComment = false

namespace KeptChar

/-- What stands in front of the character in the text. -/
def textBefore (k : KeptChar text) : List Char := k.front.flatMap Piece.chars ++ k.before

/-- What stands behind the character in the text. -/
def textBehind (k : KeptChar text) : List Char := k.behind ++ k.back.flatMap Piece.chars

/-- What stands in front of the character in the text without comments. -/
def keptBefore (k : KeptChar text) : List Char := k.front.flatMap (Piece.fill []) ++ k.before

/-- What stands behind the character in the text without comments. -/
def keptBehind (k : KeptChar text) : List Char := k.behind ++ k.back.flatMap (Piece.fill [])

/-- The line of the character in the text, as lines of faults are counted: a newline is the first
character of its line. -/
def line (k : KeptChar text) : Nat := 1 + (k.textBefore ++ [k.char]).count '\n'

theorem text_eq (k : KeptChar text) : text = k.textBefore ++ k.char :: k.textBehind := by
  have h := flatMap_chars_pieces text
  rw [k.pieces_eq, List.flatMap_append, List.flatMap_cons, k.chars_eq] at h
  refine h.symm.trans ?_
  simp only [textBefore, textBehind, List.append_assoc, List.cons_append]

theorem stripComments_eq (k : KeptChar text) :
    stripComments text = k.keptBefore ++ k.char :: k.keptBehind := by
  rw [Settings.stripComments_eq, fillComments, k.pieces_eq, List.flatMap_append, List.flatMap_cons,
    Piece.fill, k.kept, if_neg (by decide), k.chars_eq, keptBefore, keptBehind]
  simp only [List.append_assoc, List.cons_append]

/-- What is left of pieces is left of the pieces that are no comments. -/
theorem exists_piece (h : ps.flatMap (Piece.fill []) = front ++ c :: behind) :
    ∃ before p after cs cs', ps = before ++ p :: after ∧ p.isComment = false ∧
      p.chars = cs ++ c :: cs' ∧ before.flatMap (Piece.fill []) ++ cs = front ∧
      cs' ++ after.flatMap (Piece.fill []) = behind := by
  induction ps generalizing front with
  | nil => exact absurd h (by simp)
  | cons p ps ih =>
    have step {front' : List Char} (hfront : p.fill [] ++ front' = front)
        (hps : ps.flatMap (Piece.fill []) = front' ++ c :: behind) :
        ∃ before q after cs cs', p :: ps = before ++ q :: after ∧ q.isComment = false ∧
          q.chars = cs ++ c :: cs' ∧ before.flatMap (Piece.fill []) ++ cs = front ∧
          cs' ++ after.flatMap (Piece.fill []) = behind := by
      obtain ⟨before, q, after, cs, cs', rfl, hq, hchars, hbefore, hafter⟩ := ih hps
      refine ⟨p :: before, q, after, cs, cs', rfl, hq, hchars, ?_, hafter⟩
      rw [List.flatMap_cons, List.append_assoc, hbefore, hfront]
    rw [List.flatMap_cons] at h
    rcases List.append_eq_append_iff.mp h with ⟨front', hfront, hrest⟩ | ⟨cs, hp, hrest⟩
    · exact step hfront.symm hrest
    · cases cs with
      | nil =>
        have hfront : p.fill [] ++ [] = front := by rw [hp, List.append_nil, List.append_nil]
        exact step hfront hrest.symm
      | cons a cs' =>
        obtain ⟨rfl, hbehind⟩ := List.cons.inj hrest
        cases hcomment : p.isComment with
        | true =>
          rw [Piece.fill, hcomment, if_pos rfl] at hp
          exact absurd hp (by simp)
        | false =>
          rw [Piece.fill, hcomment, if_neg (by decide)] at hp
          exact ⟨[], p, ps, front, cs', rfl, hcomment, hp, rfl, hbehind.symm⟩

/-- Every character that is left was kept. -/
theorem exists_of_stripComments (h : stripComments text = front ++ c :: behind) :
    ∃ k : KeptChar text, k.keptBefore = front ∧ k.char = c ∧ k.keptBehind = behind := by
  rw [Settings.stripComments_eq, fillComments] at h
  obtain ⟨before, p, after, cs, cs', hpieces, hp, hchars, hfront, hbehind⟩ := exists_piece h
  exact ⟨⟨before, p, after, cs, c, cs', hpieces, hchars, hp⟩, hfront, rfl, hbehind⟩

/-- A character that is kept stands on the same line without comments when no block comment in front
of it goes over several lines. -/
theorem count_keptBefore_eq_iff (k : KeptChar text) :
    k.keptBefore.count '\n' = k.textBefore.count '\n' ↔ ¬ SpansLines k.front := by
  rw [keptBefore, textBefore, List.count_append, List.count_append, Nat.add_right_cancel_iff]
  refine count_fill_eq_iff fun cs hmem => ?_
  have hpiece : .lineComment cs ∈ pieces text := by
    rw [k.pieces_eq]
    exact List.mem_append_left _ hmem
  exact not_mem_of_lineComment hpiece

end KeptChar

/-! ## Faults -/

/-- The character of a text behind which `n` others stand. -/
theorem exists_split {n : Nat} {cs : List Char} (h : n < cs.length) :
    ∃ front c behind, cs = front ++ c :: behind ∧ behind.length = n := by
  obtain ⟨i, hi⟩ := Nat.exists_eq_add_of_lt h
  have hlt : i < cs.length := by omega
  refine ⟨cs.take i, cs[i], cs.drop (i + 1), ?_, ?_⟩
  · rw [← List.drop_eq_getElem_cons hlt, List.take_append_drop]
  · rw [List.length_drop]
    omega

theorem line_of_ended {f : Json.Fault} (hleft : f.left = 0) (cs : List Char) :
    f.line cs = 1 + cs.count '\n' := by
  rw [Json.Fault.line, hleft, Nat.sub_zero, List.take_length]

theorem line_of_left {f : Json.Fault} (hleft : f.left = behind.length) :
    f.line (front ++ c :: behind) = 1 + (front ++ [c]).count '\n' := by
  have hlength : (front ++ c :: behind).length - f.left = (front ++ [c]).length := by
    simp only [List.length_append, List.length_cons, List.length_nil]
    omega
  rw [Json.Fault.line, hlength, List.append_cons front c behind, List.take_left]

namespace Layer

variable {text : String} {p : Priority} {path : Option String} {fault : Json.Fault} {line : Nat}

theorem ofText_eq_error (h : ofText text p = .error (.invalidText path fault line)) :
    Json.ofChars (stripComments text.toList) = .error fault ∧
      line = fault.line (stripComments text.toList) := by
  rw [ofText] at h
  split at h
  · cases h
  · next f hf => cases h; exact ⟨hf, rfl⟩

/-- A fault of a text is at its end, or at a character of it that is kept. -/
theorem exists_faulty (h : ofText text p = .error (.invalidText path fault line)) :
    fault.category = .ended ∧ line = 1 + (stripComments text.toList).count '\n' ∨
      fault.category = .malformed ∧ ∃ k : KeptChar text.toList,
        k.keptBehind.length = fault.left ∧ line = 1 + (k.keptBefore ++ [k.char]).count '\n' := by
  obtain ⟨hfault, rfl⟩ := ofText_eq_error h
  rcases Json.among_of_ofChars hfault with ⟨hcategory, hleft⟩ | ⟨hcategory, hleft⟩
  · exact .inl ⟨hcategory, line_of_ended hleft _⟩
  · obtain ⟨front, c, behind, hcs, hlength⟩ := exists_split hleft
    obtain ⟨k, rfl, rfl, rfl⟩ := KeptChar.exists_of_stripComments hcs
    exact .inr ⟨hcategory, k, hlength, by rw [hcs, line_of_left hlength.symm]⟩

/-- A fault of a text in a file is told with the line of the text. -/
theorem ofFile_eq_invalidText {files : FileTree} {source : String}
    (hread : files.readText source = .ok text) :
    ofFile files source p = .error (.invalidText path fault line) ↔
      path = some source ∧ ofText text p = .error (.invalidText none fault line) := by
  simp only [ofFile, hread, bind, Except.bind, Except.mapError]
  cases htext : ofText text p with
  | ok l => simp [pure, Except.pure]
  | error e =>
    rw [ofText] at htext
    split at htext
    · cases htext
    · cases htext
      simp [locate, eq_comm]

/-- A character that is kept has its own place in the text and in the text without comments. It
stands on the same line of both, and a fault is on the line that is told, exactly when no block
comment in front goes over several lines. -/
theorem ofText_line_iff (text : String) :
    (∀ k : KeptChar text.toList,
      text.toList = k.textBefore ++ k.char :: k.textBehind ∧
      stripComments text.toList = k.keptBefore ++ k.char :: k.keptBehind ∧
      (k.keptBefore.count '\n' = k.textBefore.count '\n' ↔ ¬ SpansLines k.front)) ∧
    (∀ p path fault line, ofText text p = .error (.invalidText path fault line) →
      fault.category = .ended ∧
          (line = 1 + text.toList.count '\n' ↔ ¬ SpansLines (pieces text.toList)) ∨
        fault.category = .malformed ∧ ∃ k : KeptChar text.toList,
          k.keptBehind.length = fault.left ∧ (line = k.line ↔ ¬ SpansLines k.front)) ∧
    ∀ files source p path fault line, FileTree.readText files source = .ok text →
      (ofFile files source p = .error (.invalidText path fault line) ↔
        path = some source ∧ ofText text p = .error (.invalidText none fault line)) := by
  refine ⟨fun k => ⟨k.text_eq, k.stripComments_eq, k.count_keptBefore_eq_iff⟩,
    fun p path fault line h => ?_, fun files source p path fault line => ofFile_eq_invalidText⟩
  rcases exists_faulty h with ⟨hcategory, rfl⟩ | ⟨hcategory, k, hleft, rfl⟩
  · refine .inl ⟨hcategory, ?_⟩
    rw [stripComments_eq, fillComments, Nat.add_left_cancel_iff,
      ← count_fill_eq_iff fun _ => not_mem_of_lineComment, flatMap_chars_pieces]
  · refine .inr ⟨hcategory, k, hleft, ?_⟩
    rw [KeptChar.line, Nat.add_left_cancel_iff, List.count_append, List.count_append,
      Nat.add_right_cancel_iff]
    exact k.count_keptBefore_eq_iff

/-- A text that is at fault behind a comment of two lines. -/
def lateFault : String := "/*\n*/x"

theorem ofText_line_iff_lateFault :
    ofText lateFault .user = .error (.invalidText none ⟨.malformed, 0⟩ 1) ∧
      ∃ k : KeptChar lateFault.toList, k.keptBehind.length = 0 ∧ 1 ≠ k.line := by
  have hread : ofText lateFault .user = .error (.invalidText none ⟨.malformed, 0⟩ 1) := by cbv
  have hpieces : pieces lateFault.toList =
      [.blockComment ['/', '*', '\n', '*', '/'], .char 'x'] := by decide +kernel
  refine ⟨hread, ?_⟩
  rcases (ofText_line_iff lateFault).2.1 _ _ _ _ hread with ⟨h, -⟩ | ⟨-, k, hleft, hline⟩
  · cases h
  refine ⟨k, hleft, fun h => hline.mp h ?_⟩
  have hk := k.pieces_eq
  rw [hpieces] at hk
  rcases hfront : k.front with _ | ⟨p, front⟩
  · have hkept := k.kept
    rw [hfront] at hk
    rw [← (List.cons.inj hk).1] at hkept
    cases hkept
  · rw [hfront] at hk
    rw [← (List.cons.inj hk).1]
    exact ⟨_, List.mem_cons_self, by decide⟩

end Layer

end AnalyzerClient.Settings
