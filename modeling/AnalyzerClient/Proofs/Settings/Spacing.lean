import AnalyzerClient.Proofs.Json.Accepted
import AnalyzerClient.Proofs.Settings.Filler
import AnalyzerClient.Proofs.Settings.Pieces

/-!
# Spaces in the place of comments

The scan drops a comment and leaves nothing in its place. A text that is accepted reads the same
with a space in the place of every comment, unless there is a comment inside of a word: then its two
halves have become one word, and with a space between them the text is no JSON
(`Layer.ofText_spaced`).

A text that is left spells tokens. When no word has a comment in it, every token stands in one part
of the text that was cut (`laid_of_spells`), and the tokens are also spelled with gaps between the
parts (`Laid.spells`). When one does, no document is laid out this way (`Laid.not_splits`).
-/

namespace AnalyzerClient.Settings

open AnalyzerClient.Json (Document Mark NumberEnd NumberToken Separated Spells StringPart Token
  isGap skipGap)

variable {ps : List Piece} {ts : List Token} {cs filler : List Char} {t : Token} {p : Piece}

/-! ## Words -/

/-- The characters of numbers and of the words for truth values and null. -/
def isWordChar (c : Char) : Bool := c.isAlphanum || ['+', '-', '.'].contains c

/-- Behind the comments that may come next, the pieces go on with a word. -/
def Joins (ps : List Piece) : Prop :=
  ∃ b behind, ps.dropWhile Piece.isComment = .char b :: behind ∧ isWordChar b = true

/-- Somewhere among the pieces there are comments, and nothing else, between two characters of
words. -/
def Splits (ps : List Piece) : Prop :=
  ∃ a comment behind, .char a :: comment :: behind <:+ ps ∧ isWordChar a = true ∧
    comment.isComment = true ∧ Joins behind

/-- A character between words is neither a gap nor one of a mark or a string. -/
theorem isGap_of_isWordChar {c : Char} (h : isWordChar c = true) : isGap c = false := by
  cases hc : isGap c with
  | false => rfl
  | true =>
    simp only [isGap, Bool.or_eq_true, decide_eq_true_eq] at hc
    rcases hc with ((rfl | rfl) | rfl) | rfl <;> cases h

theorem isWordChar_of_isDigit {c : Char} (h : Text.Numeral.isDigit c = true) :
    isWordChar c = true := by
  have hdigit : c.isDigit = true := h
  rw [isWordChar, Char.isAlphanum, hdigit, Bool.or_true, Bool.true_or]

theorem isWordChar_number (n : NumberToken) : ∀ c ∈ n.chars, isWordChar c = true := by
  have hdigits (ds : Json.Digits) : ∀ c ∈ ds.chars, isWordChar c = true := fun c hc =>
    isWordChar_of_isDigit (ds.all_digits c hc)
  have hfraction : ∀ c ∈ Json.fractionChars n.fraction, isWordChar c = true := by
    cases n.fraction with
    | none => nofun
    | some ds => exact List.forall_mem_cons.mpr ⟨rfl, hdigits ds⟩
  have hexponent : ∀ c ∈ Json.exponentChars n.exponent, isWordChar c = true := by
    cases n.exponent with
    | none => nofun
    | some e =>
      obtain ⟨capital, sign, ds⟩ := e
      refine List.forall_mem_cons.mpr ⟨by cases capital <;> rfl, ?_⟩
      refine List.forall_mem_append.mpr ⟨?_, hdigits ds⟩
      rcases sign with _ | _ | _ <;> exact List.all_eq_true.mp rfl
  refine List.forall_mem_append.mpr ⟨?_, ?_⟩
  · cases n.negative <;> exact List.all_eq_true.mp rfl
  · exact List.forall_mem_append.mpr
      ⟨hdigits n.whole, List.forall_mem_append.mpr ⟨hfraction, hexponent⟩⟩

/-! ## Layouts -/

/-- What may stand between tokens: a gap or a comment. -/
def Piece.isBlank : Piece → Bool
  | .char c => isGap c
  | p => p.isComment

/-- The pieces that a token is cut into. -/
def tokenPieces : Token → List Piece
  | .string parts => [.string (Token.chars (.string parts))]
  | t => t.chars.map .char

/-- The pieces are those of tokens, with blanks around them. -/
inductive Laid : List Token → List Piece → Prop
  | nil : Laid [] []
  | blank {p : Piece} {ts : List Token} {ps : List Piece} :
    p.isBlank = true → Laid ts ps → Laid ts (p :: ps)
  | token {t : Token} {ts : List Token} {ps : List Piece} :
    Laid ts ps → Laid (t :: ts) (tokenPieces t ++ ps)

theorem tokenPieces_cases (t : Token) :
    (∃ m, t = .mark m) ∨ (∃ parts, t = .string parts) ∨
      (t.isMark = false ∧ tokenPieces t = t.chars.map .char ∧
        ∀ c ∈ t.chars, isWordChar c = true) := by
  cases t with
  | mark m => exact .inl ⟨m, rfl⟩
  | string parts => exact .inr (.inl ⟨parts, rfl⟩)
  | null => exact .inr (.inr ⟨rfl, rfl, List.all_eq_true.mp rfl⟩)
  | bool b => cases b <;> exact .inr (.inr ⟨rfl, rfl, List.all_eq_true.mp rfl⟩)
  | number n => exact .inr (.inr ⟨rfl, rfl, isWordChar_number n⟩)

theorem flatMap_fill_chars (filler cs : List Char) :
    (cs.map Piece.char).flatMap (Piece.fill filler) = cs := by
  induction cs with
  | nil => rfl
  | cons c cs ih => rw [List.map_cons, List.flatMap_cons, ih]; rfl

theorem flatMap_fill_tokenPieces (filler : List Char) (t : Token) :
    (tokenPieces t).flatMap (Piece.fill filler) = t.chars := by
  cases t with
  | string parts => exact List.append_nil _
  | _ => exact flatMap_fill_chars filler _

theorem gap_of_isBlank (hfiller : ∀ c ∈ filler, isGap c = true) (hp : p.isBlank = true) :
    ∀ c ∈ p.fill filler, isGap c = true := by
  cases p with
  | char c => exact List.forall_mem_singleton.mpr hp
  | string text => cases hp
  | lineComment text | blockComment text => exact hfiller

/-- What follows a number that stands next to a mark does not go on with it. -/
theorem numberEnd_of_separated {n : NumberToken} (hts : Separated (.number n :: ts))
    (h : Spells ts cs) : NumberEnd cs := by
  have hcs : cs = cs.takeWhile isGap ++ skipGap cs := List.takeWhile_append_dropWhile.symm
  rw [hcs]
  refine Json.numberEnd_of_gap (fun c => List.mem_takeWhile_imp) ?_
  cases ts with
  | nil => rw [h.eq_nil]; exact Json.numberEnd_nil
  | cons t ts =>
    rcases (List.isChain_cons_cons.mp hts).1 with hmark | hmark
    · cases hmark
    · obtain ⟨rest, hrest, -⟩ := h
      cases t with
      | mark m => rw [hrest]; exact Json.numberEnd_mark m rest
      | _ => cases hmark

/-- Tokens are spelled with gaps in the place of the comments around them. -/
theorem Laid.spells (h : Laid ts ps) (hts : Separated ts)
    (hfiller : ∀ c ∈ filler, isGap c = true) : Spells ts (ps.flatMap (Piece.fill filler)) := by
  induction h with
  | nil => rfl
  | @blank p ts ps hp _ ih =>
    rw [List.flatMap_cons, ← Json.spells_skipGap, Json.skipGap_append (gap_of_isBlank hfiller hp),
      Json.spells_skipGap]
    exact ih hts
  | @token t ts ps _ ih =>
    have hrest := ih hts.tail
    obtain ⟨c, tail, htail, hc, -⟩ := t.exists_cons
    refine ⟨ps.flatMap (Piece.fill filler), ?_, ?_, hrest⟩
    · rw [List.flatMap_append, flatMap_fill_tokenPieces, htail, List.cons_append,
        Json.skipGap_of_head hc]
    · cases t with
      | number n => exact numberEnd_of_separated hts hrest
      | _ => trivial

/-! ## Words that are split -/

theorem splits_cons : Splits (p :: ps) ↔
    (∃ a comment behind, p = .char a ∧ ps = comment :: behind ∧ isWordChar a = true ∧
      comment.isComment = true ∧ Joins behind) ∨ Splits ps := by
  constructor
  · rintro ⟨a, comment, behind, hsuffix, h⟩
    rcases List.suffix_cons_iff.mp hsuffix with heq | hsuffix
    · obtain ⟨rfl, rfl⟩ := List.cons.inj heq
      exact .inl ⟨a, comment, behind, rfl, rfl, h⟩
    · exact .inr ⟨a, comment, behind, hsuffix, h⟩
  · rintro (⟨a, comment, behind, rfl, rfl, h⟩ | ⟨a, comment, behind, hsuffix, h⟩)
    · exact ⟨a, comment, behind, List.suffix_rfl, h⟩
    · exact ⟨a, comment, behind, List.suffix_cons_iff.mpr (.inr hsuffix), h⟩

theorem joins_comment (hp : p.isComment = true) : Joins (p :: ps) ↔ Joins ps := by
  rw [Joins, List.dropWhile_cons_of_pos hp, Joins]

/-- A word behind comments is a token of its own. -/
theorem Laid.exists_word (h : Laid ts ps) (hjoins : Joins ps) :
    ∃ t ts', ts = t :: ts' ∧ t.isMark = false := by
  induction h with
  | nil =>
    obtain ⟨b, behind, heq, -⟩ := hjoins
    cases heq
  | @blank p ts ps hp _ ih =>
    cases hcomment : p.isComment with
    | true => exact ih ((joins_comment hcomment).mp hjoins)
    | false =>
      obtain ⟨b, behind, heq, hb⟩ := hjoins
      rw [List.dropWhile_cons_of_neg (by rw [hcomment]; decide)] at heq
      obtain ⟨rfl, -⟩ := List.cons.inj heq
      exact absurd ((isGap_of_isWordChar hb).symm.trans hp) nofun
  | @token t ts ps _ _ =>
    refine ⟨t, ts, rfl, ?_⟩
    cases t with
    | mark m =>
      obtain ⟨b, behind, heq, hb⟩ := hjoins
      obtain ⟨heq, -⟩ := List.cons.inj heq
      cases heq
      cases m <;> cases hb
    | _ => rfl

/-- A token is not split, and the next one is no word. -/
theorem not_splits_token (hmark : t.isMark = false → ¬ Joins ps) (hps : ¬ Splits ps) :
    ¬ Splits (tokenPieces t ++ ps) := by
  have hchars (cs : List Char) (hcs : ∀ c ∈ cs, isWordChar c = true → ¬ Joins ps) :
      ¬ Splits (cs.map .char ++ ps) := by
    induction cs with
    | nil => exact hps
    | cons c cs ih =>
      rw [List.map_cons, List.cons_append, splits_cons]
      rintro (⟨a, comment, behind, ha, heq, hword, hcomment, hjoins⟩ | h)
      · cases ha
        cases cs with
        | nil =>
          obtain rfl : ps = comment :: behind := heq
          exact hcs c List.mem_cons_self hword ((joins_comment hcomment).mpr hjoins)
        | cons c' cs =>
          obtain ⟨rfl, -⟩ := List.cons.inj heq
          cases hcomment
      · exact ih (fun c hc => hcs c (List.mem_cons_of_mem _ hc)) h
  cases t with
  | string parts =>
    rw [tokenPieces, List.singleton_append, splits_cons]
    rintro (⟨a, comment, behind, ha, -⟩ | h)
    · cases ha
    · exact hps h
  | mark m =>
    refine hchars _ fun c hc hword => ?_
    obtain rfl := List.mem_singleton.mp hc
    cases m <;> cases hword
  | _ => exact hchars _ fun _ _ _ => hmark rfl

/-- In a document that is laid out no word is split. -/
theorem Laid.not_splits (h : Laid ts ps) (hts : Separated ts) : ¬ Splits ps := by
  induction h with
  | nil =>
    rintro ⟨a, comment, behind, hsuffix, -⟩
    cases List.suffix_nil.mp hsuffix
  | @blank p ts ps hp _ ih =>
    rw [splits_cons]
    rintro (⟨a, comment, behind, rfl, -, ha, -⟩ | h)
    · exact absurd ((isGap_of_isWordChar ha).symm.trans hp) nofun
    · exact ih hts h
  | @token t ts ps hps ih =>
    refine not_splits_token (fun hmark hjoins => ?_) (ih hts.tail)
    obtain ⟨t', ts', rfl, hmark'⟩ := hps.exists_word hjoins
    rcases (List.isChain_cons_cons.mp hts).1 with h | h
    · rw [hmark] at h; cases h
    · rw [hmark'] at h; cases h

/-! ## Cutting a text that spells tokens -/

theorem cutString_part (part : StringPart) (cs : List Char) : cutString (part.chars ++ cs) =
    (part.chars ++ (cutString cs).1, (cutString cs).2) := by
  cases part with
  | plain c h =>
    obtain ⟨-, hquote, hslash⟩ := h
    rw [StringPart.chars, List.singleton_append, cutString]
    · rfl
    · exact hquote
    · exact fun _ _ hc _ => hslash hc
  | short c h => rfl
  | unicode a b c d h =>
    obtain ⟨ha, hb, hc, hd⟩ := Json.ordinary_of_hexDigits h
    simp [StringPart.chars, cutString, ha, hb, hc, hd]

theorem cutString_parts (parts : List StringPart) (rest : List Char) :
    cutString (parts.flatMap StringPart.chars ++ '"' :: rest) =
      (parts.flatMap StringPart.chars ++ ['"'], rest) := by
  induction parts with
  | nil => rfl
  | cons part parts ih =>
    rw [List.flatMap_cons, List.append_assoc, cutString_part, ih, List.append_assoc]

/-- A text that begins with something else than a gap begins with the first of its tokens. -/
theorem spells_cons {c : Char} (hc : isGap c = false) (h : Spells ts (c :: cs)) :
    ∃ t ts' tail rest, ts = t :: ts' ∧ t.chars = c :: tail ∧ cs = tail ++ rest ∧
      Spells ts' rest := by
  cases ts with
  | nil =>
    have hnil := h.eq_nil
    rw [Json.skipGap_of_head hc] at hnil
    cases hnil
  | cons t ts =>
    obtain ⟨rest, hcs, -, hrest⟩ := h
    obtain ⟨c', tail, htail, -⟩ := t.exists_cons
    rw [Json.skipGap_of_head hc, htail] at hcs
    obtain ⟨rfl, htext⟩ := List.cons.inj hcs
    exact ⟨t, ts, tail, rest, rfl, htail, htext, hrest⟩

/-- A string that a text was cut at is a token, if tokens are left. -/
theorem spells_string {rest : List Char} (h : Spells ts ('"' :: ((cutString cs).1 ++ rest)))
    (hend : (cutString cs).2 = [] → rest = []) :
    ∃ t ts', ts = t :: ts' ∧ tokenPieces t = [.string ('"' :: (cutString cs).1)] ∧
      Spells ts' rest := by
  obtain ⟨t, ts', tail, behind, rfl, htail, hcs, hbehind⟩ := spells_cons rfl h
  obtain ⟨parts, rfl⟩ := Token.exists_string htail
  obtain rfl : _ = tail := (List.cons.inj htail).2
  rw [List.append_assoc] at hcs
  have hcut := (cutString_cut hend).symm.trans ((congrArg cutString hcs).trans (cutString_parts ..))
  obtain ⟨hstring, hrest⟩ := Prod.mk.inj hcut
  exact ⟨.string parts, ts', rfl, by rw [hstring]; rfl, hrest ▸ hbehind⟩

/-- A character outside of strings is a gap or the first one of a mark or of a word. -/
theorem spells_char {c : Char} (hc : c ≠ '"') (h : Spells ts (c :: cs)) :
    isGap c = true ∧ Spells ts cs ∨
      ∃ t ts' tail rest, ts = t :: ts' ∧ tokenPieces t = .char c :: tail.map .char ∧
        cs = tail ++ rest ∧ (∀ a ∈ tail, isWordChar a = true) ∧
        (tail ≠ [] → isWordChar c = true) ∧ Spells ts' rest := by
  cases hgap : isGap c with
  | true =>
    have hgaps : ∀ a ∈ [c], isGap a = true := List.forall_mem_singleton.mpr hgap
    refine .inl ⟨rfl, ?_⟩
    rwa [← Json.spells_skipGap, ← List.singleton_append, Json.skipGap_append hgaps,
      Json.spells_skipGap] at h
  | false =>
    obtain ⟨t, ts', tail, rest, rfl, htail, hcs, hrest⟩ := spells_cons hgap h
    refine .inr ⟨t, ts', tail, rest, rfl, ?_⟩
    rcases tokenPieces_cases t with ⟨m, rfl⟩ | ⟨parts, rfl⟩ | ⟨-, hpieces, hword⟩
    · obtain ⟨rfl, rfl⟩ := List.cons.inj htail
      exact ⟨rfl, hcs, List.forall_mem_nil _, fun h => absurd rfl h, hrest⟩
    · exact absurd (List.cons.inj htail).1.symm hc
    · rw [htail] at hpieces hword
      obtain ⟨hc, htail⟩ := List.forall_mem_cons.mp hword
      exact ⟨hpieces, hcs, htail, fun _ => hc, hrest⟩

/-- Behind dropped comments there is a word when the next character belongs to one. -/
theorem joins_of_fill {c : Char} (hc : isWordChar c = true)
    (h : fillComments [] cs = c :: filler) : Joins (pieces cs) := by
  rw [fillComments] at h
  fun_induction pieces cs with
  | case1 => cases h
  | case2 cs _ =>
    obtain ⟨rfl, -⟩ := List.cons.inj h
    cases hc
  | case3 cs ih | case4 cs ih => exact (joins_comment rfl).mpr (ih h)
  | case5 c' cs _ _ _ _ =>
    obtain ⟨rfl, -⟩ := List.cons.inj h
    exact ⟨c', pieces cs, rfl, hc⟩

/-- Every comment stands behind something else than a word when it is dropped. -/
theorem eq_nil_of_comment {word rest : List Char} (hp : p.isComment = true)
    (hfiller : ∀ c ∈ filler, isGap c = true) (hword : ∀ c ∈ word, isWordChar c = true)
    (hjoin : word ≠ [] → filler = [] →
      ∃ a, isWordChar a = true ∧ ¬ Splits (.char a :: p :: pieces cs))
    (h : filler ++ fillComments filler cs = word ++ rest) : word = [] := by
  cases word with
  | nil => rfl
  | cons x word =>
    have hx := hword x List.mem_cons_self
    cases filler with
    | cons c filler =>
      obtain ⟨rfl, -⟩ := List.cons.inj h
      exact absurd ((isGap_of_isWordChar hx).symm.trans (hfiller c List.mem_cons_self)) nofun
    | nil =>
      obtain ⟨a, ha, hsplit⟩ := hjoin nofun rfl
      exact absurd (splits_cons.mpr (.inl ⟨a, p, _, rfl, rfl, ha, hp, joins_of_fill hx h⟩)) hsplit

/-- The pieces of a text that spells tokens are those of the tokens, when no comment inside of a
word is dropped. The text may begin in the middle of a token, with the rest of a word. -/
theorem exists_laid {word rest : List Char} (hfiller : ∀ c ∈ filler, isGap c = true)
    (hword : ∀ c ∈ word, isWordChar c = true)
    (hjoin : word ≠ [] → filler = [] → ∃ a, isWordChar a = true ∧ ¬ Splits (.char a :: pieces cs))
    (hsplit : filler = [] → ¬ Splits (pieces cs)) (h : fillComments filler cs = word ++ rest)
    (hts : Spells ts rest) : ∃ qs, pieces cs = word.map .char ++ qs ∧ Laid ts qs := by
  have behind {p : Piece} {ps : List Piece} (h : filler = [] → ¬ Splits (p :: ps)) :
      filler = [] → ¬ Splits ps := fun hnil hps => h hnil (splits_cons.mpr (.inr hps))
  rw [fillComments] at h
  fun_induction pieces cs generalizing ts word rest with
  | case1 =>
    obtain ⟨rfl, rfl⟩ := List.append_eq_nil_iff.mp h.symm
    cases ts with
    | nil => exact ⟨[], rfl, .nil⟩
    | cons t ts => exact absurd rfl hts.ne_nil
  | case2 cs ih =>
    cases word with
    | cons x word =>
      obtain ⟨rfl, -⟩ := List.cons.inj h
      exact absurd (hword _ List.mem_cons_self) (by decide)
    | nil =>
      obtain rfl : _ = rest := h
      obtain ⟨t, ts, rfl, hpieces, hrest⟩ := spells_string hts fun h => by rw [h, pieces]; rfl
      obtain ⟨qs, hqs, hlaid⟩ := ih (List.forall_mem_nil _) (absurd rfl) (behind hsplit) rfl hrest
      have hlaid : Laid (t :: ts) (tokenPieces t ++ qs) := hlaid.token
      rw [hpieces] at hlaid
      exact ⟨_, rfl, by rw [hqs]; exact hlaid⟩
  | case3 cs ih | case4 cs ih =>
    obtain rfl := eq_nil_of_comment rfl hfiller hword hjoin h
    obtain rfl : _ = rest := h
    rw [← Json.spells_skipGap, List.flatMap_cons, Json.skipGap_append (gap_of_isBlank hfiller rfl),
      Json.spells_skipGap] at hts
    obtain ⟨qs, hqs, hlaid⟩ := ih (List.forall_mem_nil _) (absurd rfl) (behind hsplit) rfl hts
    exact ⟨_, rfl, by rw [hqs]; exact .blank rfl hlaid⟩
  | case5 c cs hquote _ _ ih =>
    cases word with
    | cons x word =>
      obtain ⟨rfl, htext⟩ := List.cons.inj h
      obtain ⟨hx, hword⟩ := List.forall_mem_cons.mp hword
      obtain ⟨qs, hqs, hlaid⟩ :=
        ih hword (fun _ hnil => ⟨c, hx, hsplit hnil⟩) (behind hsplit) htext hts
      exact ⟨qs, by rw [hqs]; rfl, hlaid⟩
    | nil =>
      obtain rfl : _ = rest := h
      rcases spells_char hquote hts with ⟨hc, hts⟩ |
        ⟨t, ts, tail, rest, rfl, hpieces, hcs, htail, hc, hrest⟩
      · obtain ⟨qs, hqs, hlaid⟩ := ih (List.forall_mem_nil _) (absurd rfl) (behind hsplit) rfl hts
        exact ⟨_, rfl, by rw [hqs]; exact .blank hc hlaid⟩
      · obtain ⟨qs, hqs, hlaid⟩ := ih htail (fun hne hnil => ⟨c, hc hne, hsplit hnil⟩)
          (behind hsplit) hcs hrest
        have hlaid : Laid (t :: ts) (tokenPieces t ++ qs) := hlaid.token
        rw [hpieces] at hlaid
        exact ⟨_, rfl, by rw [hqs]; exact hlaid⟩

/-- A text is laid out as the tokens that it spells with its comments filled, when no comment inside
of a word is dropped. -/
theorem laid_of_spells (hfiller : ∀ c ∈ filler, isGap c = true)
    (hsplit : filler = [] → ¬ Splits (pieces cs)) (hts : Spells ts (fillComments filler cs)) :
    Laid ts (pieces cs) := by
  obtain ⟨qs, hqs, hlaid⟩ := exists_laid hfiller (List.forall_mem_nil _) nofun hsplit rfl hts
  rw [hqs]
  exact hlaid

namespace Layer

variable {text : String} {l : Layer} {priority : Priority}

/-- A text that is accepted has the same values with a space in the place of every comment, unless
there is a comment inside of a word; then it has no value with spaces. -/
theorem ofText_spaced (h : ofText text priority = .ok l) :
    (¬ Splits (pieces text.toList) →
      ∃ v, Json.ofChars (fillComments [' '] text.toList) = .ok v ∧ membersOf v = l.values) ∧
    (Splits (pieces text.toList) →
      ∃ fault, Json.ofChars (fillComments [' '] text.toList) = .error fault) := by
  have hspace : ∀ c ∈ [' '], isGap c = true := List.forall_mem_singleton.mpr rfl
  obtain ⟨v, hv, hvalues⟩ : ∃ v, Json.ofChars (fillComments [] text.toList) = .ok v ∧
      membersOf v = l.values := by
    rw [ofText, stripComments_eq] at h
    split at h
    · next v hv =>
      cases h
      exact ⟨v, hv, rfl⟩
    · cases h
  constructor
  · intro hsplit
    obtain ⟨d, hd⟩ := Json.exists_document_of_ofChars hv
    have hlaid := laid_of_spells (List.forall_mem_nil _) (fun _ => hsplit) hd
    have hsame := Json.ofChars_of_spells (hlaid.spells d.separated hspace) hd
    rw [← fillComments, hv] at hsame
    cases hspaced : Json.ofChars (fillComments [' '] text.toList) with
    | error f => rw [hspaced] at hsame; cases hsame
    | ok w =>
      rw [hspaced] at hsame
      exact ⟨w, rfl, by cases hsame; exact hvalues⟩
  · intro hsplit
    cases hspaced : Json.ofChars (fillComments [' '] text.toList) with
    | error f => exact ⟨f, rfl⟩
    | ok w =>
      obtain ⟨d, hd⟩ := Json.exists_document_of_ofChars hspaced
      have hlaid := laid_of_spells hspace (absurd · (List.cons_ne_nil _ _)) hd
      exact absurd hsplit (hlaid.not_splits d.separated)

/-- A number with a comment inside of it. -/
def splitNumber : String := "\x7b\"a\": 1/**/2\x7d"

theorem ofText_spaced_splitNumber :
    (∃ l, ofText splitNumber .user = .ok l ∧ l.get? "a" = some (.number (.int 12))) ∧
      ∃ fault, Json.ofChars (fillComments [' '] splitNumber.toList) = .error fault := by
  have hread : ofText splitNumber .user = .ok ⟨.user, none, [("a", .number (.int 12))]⟩ := by cbv
  have hpieces : pieces splitNumber.toList =
      [.char '{', .string ['"', 'a', '"'], .char ':', .char ' ', .char '1',
        .blockComment ['/', '*', '*', '/'], .char '2', .char '}'] := by decide +kernel
  refine ⟨⟨_, hread, rfl⟩, (ofText_spaced hread).2 ?_⟩
  rw [hpieces]
  iterate 4 refine splits_cons.mpr (.inr ?_)
  exact splits_cons.mpr (.inl ⟨'1', _, _, rfl, rfl, rfl, rfl, '2', _, rfl, rfl⟩)

end Layer

end AnalyzerClient.Settings
