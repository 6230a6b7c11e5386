import AnalyzerClient.Proofs.Binary64
import AnalyzerClient.Proofs.Json.Layout
import AnalyzerClient.Proofs.Json.Numeral
import AnalyzerClient.Settings.Comment

/-!
# Texts without comments

A text that the printer writes has no comments: outside of strings there is no slash, and a scan
leaves a string where it was closed (`stripComments_spread`).
-/

namespace AnalyzerClient.Settings

open AnalyzerClient.Json

variable {cs cs' : List Char} {c : Char}

/-- A scan goes over these characters outside of comments and strings, and keeps them all. -/
def Plain (cs : List Char) : Prop :=
  ∀ rest, stripFrom .plain (cs ++ rest) = cs ++ stripFrom .plain rest

/-- No comment and no string begins with this character. -/
def isHarmless (c : Char) : Bool := c ≠ '/' && c ≠ '"'

namespace Plain

theorem nil : Plain [] := fun _ => rfl

theorem append (h : Plain cs) (h' : Plain cs') : Plain (cs ++ cs') := by
  intro rest
  rw [List.append_assoc, h, h', List.append_assoc]

theorem single (h : isHarmless c = true) : Plain [c] := by
  obtain ⟨hslash, hquote⟩ : c ≠ '/' ∧ c ≠ '"' := by simpa [isHarmless] using h
  intro rest
  rw [List.singleton_append, stripFrom, if_neg hquote]
  · rfl
  · exact fun _ he _ => hslash he
  · exact fun _ he _ => hslash he

theorem cons (h : isHarmless c = true) (hcs : Plain cs) : Plain (c :: cs) := (single h).append hcs

theorem of_harmless (h : ∀ c ∈ cs, isHarmless c = true) : Plain cs := by
  induction cs with
  | nil => exact nil
  | cons c cs ih =>
    exact cons (h c List.mem_cons_self) (ih fun a ha => h a (List.mem_cons_of_mem _ ha))

end Plain

theorem stripFrom_escape (c : Char) (rest : List Char) :
    stripFrom (.string false) (escape c ++ rest) = escape c ++ stripFrom (.string false) rest := by
  unfold escape
  split
  · rfl
  split
  · rfl
  split
  · rfl
  split
  · rfl
  split
  · rfl
  split
  · rfl
  split
  · rfl
  split
  · next h =>
    have hdigit : ∀ n < 16, hexDigit n ≠ '\\' ∧ hexDigit n ≠ '"' := by decide
    obtain ⟨h₁, h₂⟩ := hdigit (c.toNat / 16) (by omega)
    obtain ⟨h₃, h₄⟩ := hdigit (c.toNat % 16) (Nat.mod_lt _ (by decide))
    simp [stripFrom, h₁, h₂, h₃, h₄]
  · next hquote hslash _ _ _ _ _ _ => simp [stripFrom, hquote, hslash]

theorem stripFrom_escaped (cs rest : List Char) :
    stripFrom (.string false) (cs.flatMap escape ++ rest) =
      cs.flatMap escape ++ stripFrom (.string false) rest := by
  induction cs with
  | nil => rfl
  | cons c cs ih =>
    rw [List.flatMap_cons, List.append_assoc, stripFrom_escape, ih, List.append_assoc]

theorem plain_quote (s : String) : Plain (quote s) := by
  intro rest
  have htext : quote s ++ rest = '"' :: (s.toList.flatMap escape ++ '"' :: rest) := by simp [quote]
  have hopen : stripFrom .plain ('"' :: (s.toList.flatMap escape ++ '"' :: rest)) =
      '"' :: stripFrom (.string false) (s.toList.flatMap escape ++ '"' :: rest) := rfl
  have hclose : stripFrom (.string false) ('"' :: rest) = '"' :: stripFrom .plain rest := rfl
  rw [htext, hopen, stripFrom_escaped, hclose]
  simp [quote]

theorem harmless_of_gap (h : isGap c = true) : isHarmless c = true := by
  simp only [isGap, Bool.or_eq_true, decide_eq_true_eq] at h
  rcases h with ((rfl | rfl) | rfl) | rfl <;> rfl

theorem plain_gap (h : ∀ c ∈ cs, isGap c = true) : Plain cs :=
  .of_harmless fun c hc => harmless_of_gap (h c hc)

theorem harmless_of_decimal (h : Binary64.isDecimal c = true) : isHarmless c = true := by
  have hslash : c ≠ '/' := by rintro rfl; cases h
  have hquote : c ≠ '"' := by rintro rfl; cases h
  simp [isHarmless, hslash, hquote]

theorem plain_digits (ds : Digits) : Plain ds.chars :=
  .of_harmless fun c hc => harmless_of_decimal (Binary64.isDecimal_of_isDigit (ds.all_digits c hc))

theorem plain_fraction (f : Option Digits) : Plain (fractionChars f) := by
  cases f with
  | none => exact .nil
  | some ds => exact (plain_digits ds).cons rfl

theorem plain_exponent (e : Option ExponentToken) : Plain (exponentChars e) := by
  cases e with
  | none => exact .nil
  | some e =>
    obtain ⟨capital, sign, ds⟩ := e
    have hsign : Plain (signChars sign) := by
      rcases sign with _ | _ | _ <;> exact .of_harmless (List.all_eq_true.mp rfl)
    exact (hsign.append (plain_digits ds)).cons (by cases capital <;> rfl)

theorem plain_number (n : NumberToken) : Plain n.chars := by
  have hsign : Plain (if n.negative then ['-'] else []) := by
    cases n.negative <;> exact .of_harmless (List.all_eq_true.mp rfl)
  exact hsign.append
    ((plain_digits _).append ((plain_fraction _).append (plain_exponent _)))

theorem plain_render : (n : Json.Number) → Plain n.render
  | .int n => by
    rw [Number.render, ← NumberToken.chars_ofInt]
    exact plain_number _
  | .float x => .of_harmless fun _ hc =>
    harmless_of_decimal (Binary64.isDecimal_of_mem_render floatLayout x hc)

variable (g : Spacing)

theorem plain_member (level : Nat) (k : String) : Plain (g.line level ++ quote k) :=
  (plain_gap (g.line_gap level)).append (plain_quote k)

mutual

theorem plain_spread (level : Nat) : (v : Json) → Plain (spreadChars g level v)
  | .null | .bool true | .bool false | .array [] | .object [] => by
    rw [spreadChars]; exact .of_harmless (List.all_eq_true.mp rfl)
  | .number n => plain_render n
  | .string s => plain_quote s
  | .array (v :: vs) =>
    have hitems := (plain_spreadItems (level + 1) (v :: vs)).append (plain_gap (g.line_gap level))
    .append (.cons rfl hitems) (.single rfl)
  | .object (m :: ms) =>
    have hmembers :=
      (plain_spreadMembers (level + 1) (m :: ms)).append (plain_gap (g.line_gap level))
    .append (.cons rfl hmembers) (.single rfl)

theorem plain_spreadItems (level : Nat) : (vs : List Json) → Plain (spreadItems g level vs)
  | [] => .nil
  | [v] => (plain_gap (g.line_gap level)).append (plain_spread level v)
  | v :: w :: vs =>
    ((plain_gap (g.line_gap level)).append (plain_spread level v)).append
      (.cons rfl (plain_spreadItems level (w :: vs)))

theorem plain_spreadMembers (level : Nat) :
    (ms : List (String × Json)) → Plain (spreadMembers g level ms)
  | [] => .nil
  | [(k, v)] =>
    ((plain_member g level k).append (.cons rfl (plain_gap g.space_gap))).append
      (plain_spread level v)
  | (k, v) :: m :: ms =>
    (((plain_member g level k).append (.cons rfl (plain_gap g.space_gap))).append
      (plain_spread level v)).append (.cons rfl (plain_spreadMembers level (m :: ms)))

end

/-- The text of a value has no comments. -/
theorem stripComments_spread (level : Nat) (v : Json) :
    stripComments (spreadChars g level v) = spreadChars g level v := by
  have hplain := plain_spread g level v []
  rw [List.append_nil] at hplain
  rw [stripComments, hplain, stripFrom, List.append_nil]

end AnalyzerClient.Settings
