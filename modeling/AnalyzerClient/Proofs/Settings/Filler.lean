import AnalyzerClient.Proofs.Json.Document
import AnalyzerClient.Proofs.Settings.Comment
import AnalyzerClient.Settings.Layer

/-!
# Documents with comments

Between the tokens of a document there may be gaps and comments. A document gives the same layer
with and without them (`Layer.ofText_commented`): the scan drops the comments and keeps the tokens
and the gaps, and the text that is left spells the tokens of the document.
-/

namespace AnalyzerClient.Settings

open AnalyzerClient.Json (Document Separated Spells StringPart Token isGap spells_weave weave
  weave_nil)

variable {body rest : List Char}

/-! ## Fillers -/

/-- A piece of what stands between tokens: a gap, a line comment with the newline that ends it, or a
block comment. -/
inductive Filling where
  | gap (c : Char) (h : isGap c = true)
  | lineComment (body : List Char) (h : '\n' ∉ body)
  | blockComment (body : List Char) (h : ¬ ['*', '/'] <:+: body)

namespace Filling

/-- The characters of a piece. -/
def chars : Filling → List Char
  | .gap c _ => [c]
  | .lineComment body _ => '/' :: '/' :: (body ++ ['\n'])
  | .blockComment body _ => '/' :: '*' :: (body ++ ['*', '/'])

/-- What is left of a piece when comments are dropped. -/
def kept : Filling → List Char
  | .gap c _ => [c]
  | .lineComment _ _ => ['\n']
  | .blockComment _ _ => []

theorem isGap_of_mem_kept {f : Filling} {c : Char} (h : c ∈ f.kept) : isGap c = true := by
  cases f with
  | gap c' hc => rw [List.mem_singleton.mp h]; exact hc
  | lineComment body _ => rw [List.mem_singleton.mp h]; rfl
  | blockComment body _ => cases h

end Filling

/-- What stands behind the last token: the line comment at the end of the text may have no
newline. -/
structure LastFiller where
  fillings : List Filling
  comment : Option { body : List Char // '\n' ∉ body }

/-- The characters behind the last token. -/
def LastFiller.chars (last : LastFiller) : List Char :=
  last.fillings.flatMap Filling.chars ++
    match last.comment with
    | none => []
    | some body => '/' :: '/' :: body.val

/-- The text of tokens with fillers in front of each of them and behind the last one. -/
def commented (ts : List Token) (fillers : Nat → List Filling) (last : LastFiller) : String :=
  String.ofList (weave (fun i => (fillers i).flatMap Filling.chars) ts ++ last.chars)

/-! ## The scan of a comment -/

theorem stripFrom_lineComment (h : '\n' ∉ body) (rest : List Char) :
    stripFrom .lineComment (body ++ '\n' :: rest) = '\n' :: stripFrom .plain rest := by
  induction body with
  | nil => rw [List.nil_append, stripFrom, if_pos rfl]
  | cons c body ih =>
    obtain ⟨hc, hbody⟩ := not_or.mp (mt List.mem_cons.mpr h)
    rw [List.cons_append, stripFrom, if_neg (Ne.symm hc), ih hbody]

theorem stripFrom_lineComment_end (h : '\n' ∉ body) : stripFrom .lineComment body = [] := by
  induction body with
  | nil => rfl
  | cons c body ih =>
    obtain ⟨hc, hbody⟩ := not_or.mp (mt List.mem_cons.mpr h)
    rw [stripFrom, if_neg (Ne.symm hc), ih hbody]

/-- A scan that has seen a star does not take the slash of the body for the end. -/
theorem stripFrom_blockComment (star : Bool) (h : ¬ ['*', '/'] <:+: body)
    (hstar : star = true → body.head? ≠ some '/') (rest : List Char) :
    stripFrom (.blockComment star) (body ++ '*' :: '/' :: rest) = stripFrom .plain rest := by
  induction body generalizing star with
  | nil => cases star <;> rfl
  | cons c body ih =>
    have hbody : ¬ ['*', '/'] <:+: body := fun hinfix => h (List.infix_cons hinfix)
    have hnext : decide (c = '*') = true → body.head? ≠ some '/' := by
      intro hc hhead
      obtain ⟨tail, rfl⟩ := List.head?_eq_some_iff.mp hhead
      rw [of_decide_eq_true hc] at h
      exact h ⟨[], tail, rfl⟩
    have hclose : (star && decide (c = '/')) = false := by
      cases star with
      | false => rfl
      | true => simpa using hstar rfl
    rw [List.cons_append, stripFrom, hclose]
    exact ih _ hbody hnext

theorem stripFrom_filling (f : Filling) (rest : List Char) :
    stripFrom .plain (f.chars ++ rest) = f.kept ++ stripFrom .plain rest := by
  cases f with
  | gap c h => exact Plain.single (harmless_of_gap h) rest
  | lineComment body h =>
    have hopen : stripFrom .plain ('/' :: '/' :: (body ++ '\n' :: rest)) =
        stripFrom .lineComment (body ++ '\n' :: rest) := rfl
    simpa [Filling.chars, Filling.kept, hopen] using stripFrom_lineComment h rest
  | blockComment body h =>
    have hopen : stripFrom .plain ('/' :: '*' :: (body ++ '*' :: '/' :: rest)) =
        stripFrom (.blockComment false) (body ++ '*' :: '/' :: rest) := rfl
    simpa [Filling.chars, Filling.kept, hopen] using stripFrom_blockComment false h nofun rest

theorem stripFrom_fillings (fs : List Filling) (rest : List Char) :
    stripFrom .plain (fs.flatMap Filling.chars ++ rest) =
      fs.flatMap Filling.kept ++ stripFrom .plain rest := by
  induction fs with
  | nil => rfl
  | cons f fs ih =>
    rw [List.flatMap_cons, List.append_assoc, stripFrom_filling, ih, List.flatMap_cons,
      List.append_assoc]

theorem stripFrom_last (last : LastFiller) :
    stripFrom .plain last.chars = last.fillings.flatMap Filling.kept := by
  obtain ⟨fs, comment⟩ := last
  rw [LastFiller.chars, stripFrom_fillings]
  cases comment with
  | none => exact List.append_nil _
  | some body =>
    have hopen : stripFrom .plain ('/' :: '/' :: body.val) = stripFrom .lineComment body.val := rfl
    dsimp only
    rw [hopen, stripFrom_lineComment_end body.property, List.append_nil]

/-! ## The scan of a token -/

theorem stripFrom_part (part : StringPart) (rest : List Char) :
    stripFrom (.string false) (part.chars ++ rest) =
      part.chars ++ stripFrom (.string false) rest := by
  cases part with
  | plain c h =>
    obtain ⟨-, hquote, hslash⟩ := h
    simp [StringPart.chars, stripFrom, hquote, hslash]
  | short c h => rfl
  | unicode a b c d h =>
    obtain ⟨ha, hb, hc, hd⟩ := Json.ordinary_of_hexDigits h
    simp [StringPart.chars, stripFrom, ha, hb, hc, hd]

theorem stripFrom_parts (parts : List StringPart) (rest : List Char) :
    stripFrom (.string false) (parts.flatMap StringPart.chars ++ rest) =
      parts.flatMap StringPart.chars ++ stripFrom (.string false) rest := by
  induction parts with
  | nil => rfl
  | cons part parts ih =>
    rw [List.flatMap_cons, List.append_assoc, stripFrom_part, ih, List.append_assoc]

theorem plain_token (t : Token) : Plain t.chars := by
  cases t with
  | mark m => exact .single (by cases m <;> rfl)
  | null => exact .of_harmless (List.all_eq_true.mp rfl)
  | bool b => cases b <;> exact .of_harmless (List.all_eq_true.mp rfl)
  | number n => exact plain_number n
  | string parts =>
    intro rest
    have hopen : stripFrom .plain ('"' :: (parts.flatMap StringPart.chars ++ '"' :: rest)) =
        '"' :: stripFrom (.string false) (parts.flatMap StringPart.chars ++ '"' :: rest) := rfl
    have hclose : stripFrom (.string false) ('"' :: rest) = '"' :: stripFrom .plain rest := rfl
    rw [Token.chars_string_append, hopen, stripFrom_parts, hclose, Token.chars_string_append]

/-! ## The scan of a document -/

theorem stripFrom_weave (fillers : Nat → List Filling) (ts : List Token) (rest : List Char) :
    stripFrom .plain (weave (fun i => (fillers i).flatMap Filling.chars) ts ++ rest) =
      weave (fun i => (fillers i).flatMap Filling.kept) ts ++ stripFrom .plain rest := by
  induction ts generalizing fillers with
  | nil => rfl
  | cons t ts ih =>
    rw [weave, weave, List.append_assoc, List.append_assoc, stripFrom_fillings, plain_token,
      ih fun i => fillers (i + 1), List.append_assoc, List.append_assoc]

theorem isGap_of_mem_fillings {fs : List Filling} {c : Char}
    (h : c ∈ fs.flatMap Filling.kept) : isGap c = true := by
  obtain ⟨f, -, hc⟩ := List.mem_flatMap.mp h
  exact Filling.isGap_of_mem_kept hc

/-- What is left of a document with comments spells its tokens. -/
theorem spells_stripComments {ts : List Token} (hts : Separated ts) (fillers : Nat → List Filling)
    (last : LastFiller) : Spells ts (stripComments (commented ts fillers last).toList) := by
  rw [commented, String.toList_ofList, stripComments, stripFrom_weave, stripFrom_last]
  exact spells_weave (fun _ _ => isGap_of_mem_fillings) (fun _ => isGap_of_mem_fillings) hts

namespace Layer

theorem toOption_ofText (text : String) (p : Priority) : (ofText text p).toOption =
    (Json.ofChars (stripComments text.toList)).toOption.map fun v => ⟨p, none, membersOf v⟩ := by
  rw [ofText]
  split <;> simp [*, Except.toOption]

/-- A document gives the same layer with and without gaps and comments. -/
theorem ofText_commented (v : Document) (fillers : Nat → List Filling) (last : LastFiller)
    (p : Priority) : (ofText (commented v.tokens fillers last) p).toOption =
      (ofText (String.ofList (v.tokens.flatMap Token.chars)) p).toOption := by
  have hbare : commented v.tokens (fun _ => []) ⟨[], none⟩ =
      String.ofList (v.tokens.flatMap Token.chars) := by
    rw [commented, ← weave_nil]
    exact congrArg String.ofList (List.append_nil _)
  rw [toOption_ofText, ← hbare, toOption_ofText]
  exact congrArg _ (Json.ofChars_of_spells (spells_stripComments v.separated fillers last)
    (spells_stripComments v.separated _ _))

/-- An object with marks of comments in its strings. -/
def sampleDocument : Document :=
  .object [([.plain '/' (by decide), .short '/' (by decide)],
    .string [.plain '*' (by decide), .plain '/' (by decide), .short '"' (by decide)])]

/-- Comments with marks of strings and of other comments. -/
def sampleFillers : Nat → List Filling
  | 0 => [.lineComment ['"'] (by decide)]
  | 1 => [.blockComment ['/', ' '] (by decide), .gap '\t' rfl]
  | _ => [.blockComment ['*'] (by decide)]

theorem ofText_commented_sample :
    (commented sampleDocument.tokens sampleFillers ⟨[], some ⟨['}'], by decide⟩⟩ =
      "//\"\n\x7b/*/ */\t\"/\\/\"/***/:/***/\"*/\\\"\"/***/\x7d//\x7d") ∧
    ((ofText (commented sampleDocument.tokens sampleFillers ⟨[], some ⟨['}'], by decide⟩⟩)
      .user).toOption.bind fun l => (l.get? "//").bind Json.string?) = some "*/\"" := by
  refine ⟨by decide, ?_⟩
  rw [ofText_commented]
  decide +kernel

end Layer

end AnalyzerClient.Settings
