import AnalyzerClient.Proofs.Json.Spelling
import Mathlib.Data.List.Chain
import Mathlib.Data.List.TakeWhile

/-!
# Documents

A document is a value as it is written, with every escape and digit. In its tokens, no two stand
next to each other that could run into each other (`Document.separated_tokens`), so that they are
spelled by every text in which there are gaps between them (`spells_weave`).
-/

namespace AnalyzerClient.Json

/-- A value as it is written. -/
inductive Document where
  | null
  | bool (b : Bool)
  | number (n : NumberToken)
  | string (parts : List StringPart)
  | array (items : List Document)
  | object (members : List (List StringPart × Document))

mutual

/-- The tokens of a document. -/
def Document.tokens : Document → List Token
  | .null => [.null]
  | .bool b => [.bool b]
  | .number n => [.number n]
  | .string parts => [.string parts]
  | .array items => .mark .openArray :: (itemTokens items ++ [.mark .closeArray])
  | .object members => .mark .openObject :: (memberTokens members ++ [.mark .closeObject])

/-- The tokens of items. -/
def itemTokens : List Document → List Token
  | [] => []
  | [v] => v.tokens
  | v :: vs => v.tokens ++ .mark .comma :: itemTokens vs

/-- The tokens of members. -/
def memberTokens : List (List StringPart × Document) → List Token
  | [] => []
  | [(k, v)] => .string k :: .mark .colon :: v.tokens
  | (k, v) :: ms => .string k :: .mark .colon :: (v.tokens ++ .mark .comma :: memberTokens ms)

end

/-! ## Tokens next to each other -/

/-- Of two tokens next to each other, one is a mark. -/
def Separated (ts : List Token) : Prop :=
  ts.IsChain fun t t' => t.isMark = true ∨ t'.isMark = true

theorem Separated.mark {ts : List Token} (h : Separated ts) (m : Mark) :
    Separated (.mark m :: ts) :=
  List.IsChain.cons h fun _ _ => .inl rfl

theorem Separated.before_mark {m : Mark} {ts : List Token} (h : Separated (.mark m :: ts))
    (t : Token) : Separated (t :: .mark m :: ts) := List.IsChain.cons_cons (.inr rfl) h

mutual

theorem separated_tokens {m : Mark} {ts : List Token} (h : Separated (.mark m :: ts)) :
    (v : Document) → Separated (v.tokens ++ .mark m :: ts)
  | .null | .bool _ | .number _ | .string _ => h.before_mark _
  | .array items => by
    rw [Document.tokens, List.cons_append, List.append_assoc]
    exact (separated_itemTokens (h.mark .closeArray) items).mark .openArray
  | .object members => by
    rw [Document.tokens, List.cons_append, List.append_assoc]
    exact (separated_memberTokens (h.mark .closeObject) members).mark .openObject

theorem separated_itemTokens {m : Mark} {ts : List Token} (h : Separated (.mark m :: ts)) :
    (vs : List Document) → Separated (itemTokens vs ++ .mark m :: ts)
  | [] => h
  | [v] => separated_tokens h v
  | v :: w :: vs => by
    rw [itemTokens, List.append_assoc]
    · exact separated_tokens ((separated_itemTokens h (w :: vs)).mark .comma) v
    · nofun

theorem separated_memberTokens {m : Mark} {ts : List Token} (h : Separated (.mark m :: ts)) :
    (ms : List (List StringPart × Document)) → Separated (memberTokens ms ++ .mark m :: ts)
  | [] => h
  | [(k, v)] => ((separated_tokens h v).mark .colon).before_mark (.string k)
  | (k, v) :: m' :: ms => by
    rw [memberTokens, List.cons_append, List.cons_append, List.append_assoc]
    · have hrest := (separated_memberTokens h (m' :: ms)).mark .comma
      exact ((separated_tokens hrest v).mark .colon).before_mark (.string k)
    · nofun

end

theorem Document.separated (v : Document) : Separated v.tokens := by
  have h : Separated (v.tokens ++ [.mark .comma]) := separated_tokens (.singleton _) v
  exact h.left_of_append

/-! ## Tokens and what is between them -/

/-- Tokens, with something in front of each of them. -/
def weave : (between : Nat → List Char) → List Token → List Char
  | _, [] => []
  | between, t :: ts => between 0 ++ (t.chars ++ weave (fun i => between (i + 1)) ts)

theorem weave_nil (ts : List Token) : weave (fun _ => []) ts = ts.flatMap Token.chars := by
  induction ts with
  | nil => rfl
  | cons t ts ih => rw [weave, ih]; rfl

theorem numberEnd_mark (m : Mark) (rest : List Char) : NumberEnd (m.char :: rest) := by
  intro c cs h
  obtain ⟨rfl, -⟩ := List.cons.inj h
  cases m <;> decide

/-- Gaps between tokens do not matter. -/
theorem spells_weave {between : Nat → List Char} {last : List Char}
    (hbetween : ∀ i, ∀ c ∈ between i, isGap c = true) (hlast : ∀ c ∈ last, isGap c = true)
    (hts : Separated ts) : Spells ts (weave between ts ++ last) := by
  induction ts generalizing between with
  | nil => exact List.dropWhile_eq_nil_iff.mpr hlast
  | cons t ts ih =>
    refine ⟨weave (fun i => between (i + 1)) ts ++ last, ?_, ?_, ?_⟩
    · obtain ⟨c, tail, htail, hc, -⟩ := t.exists_cons
      rw [weave, List.append_assoc, skipGap_append (hbetween 0), htail, List.cons_append,
        List.cons_append, skipGap_of_head hc, List.append_assoc, List.cons_append]
    · cases t with
      | number n =>
        cases ts with
        | nil =>
          rw [weave, List.nil_append, ← List.append_nil last]
          exact numberEnd_of_gap hlast numberEnd_nil
        | cons t' ts =>
          -- What follows a number is a mark.
          cases t' with
          | mark m =>
            rw [weave, List.append_assoc]
            exact numberEnd_of_gap (hbetween 1) (numberEnd_mark m _)
          | _ => rcases (List.isChain_cons_cons.mp hts).1 with h | h <;> cases h
      | _ => exact trivial
    · exact ih (fun i => hbetween (i + 1)) hts.tail

end AnalyzerClient.Json
