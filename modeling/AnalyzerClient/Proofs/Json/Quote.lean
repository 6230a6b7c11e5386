import AnalyzerClient.Json.Draft
import AnalyzerClient.Json.Printer

/-!
# Reading and writing strings

A string that is written between quotes is read as the same text, and what stands behind it is left
(`ofString_quoted`).
-/

namespace AnalyzerClient.Json

open AnalyzerClient.Text

-- The equations are generated here, once, so that no proof waits for another to do it.
attribute [grind =] readString Units.ofChar Units.text?

theorem hexValue?_hexDigit : ∀ n < 16, Numeral.hexValue? (hexDigit n) = some n := by decide

/-- A character that stands for itself is read. -/
theorem readString_plain {c : Char} (h : 0x20 ≤ c.toNat ∧ c ≠ '"' ∧ c ≠ '\\') (high : Option Nat)
    (cs : List Char) : readString .characters high (c :: cs) =
      flawIf high cs ((readString .characters none cs).push [c]) := by
  obtain ⟨hcontrol, hquote, hslash⟩ := h
  rw [readString, if_neg (Nat.not_lt.mpr hcontrol)]
  · exact hquote
  · exact fun h _ => hslash h
  · exact fun _ _ _ _ _ h _ => hslash h
  · exact fun _ h _ => hslash h
  · exact fun _ _ h _ => hslash h

/-- A character that is written inside a string is read again. -/
theorem readString_escape (c : Char) (cs : List Char) :
    readString .characters none (escape c ++ cs) = (readString .characters none cs).push [c] := by
  unfold escape
  split
  · next h => subst h; rfl
  split
  · next h => subst h; rfl
  split
  · next h => subst h; rfl
  split
  · next h => subst h; rfl
  split
  · next h => subst h; rfl
  split
  · next h =>
    have hc : c = '\x08' := Char.toNat_inj.mp h
    subst hc; rfl
  split
  · next h =>
    have hc : c = '\x0c' := Char.toNat_inj.mp h
    subst hc; rfl
  split
  · next h =>
    have hquad : hexQuad? '0' '0' (hexDigit (c.toNat / 16)) (hexDigit (c.toNat % 16)) =
        some c.toNat := by
      have hzero : Numeral.hexValue? '0' = some 0 := rfl
      simp only [hexQuad?, hzero, hexValue?_hexDigit _ (show c.toNat / 16 < 16 by omega),
        hexValue?_hexDigit _ (Nat.mod_lt c.toNat (by decide)), Option.bind_eq_bind,
        Option.bind_some, Option.pure_def, Option.some.injEq]
      omega
    have hhigh : isHighSurrogate c.toNat = false := by simp [isHighSurrogate]; omega
    have hlow : isLowSurrogate c.toNat = false := by simp [isLowSurrogate]; omega
    simp [readString, hquad, hhigh, hlow, Units.ofChar]
  · next hquote hslash _ _ _ _ _ hcontrol =>
    exact readString_plain ⟨Nat.not_lt.mp hcontrol, hquote, hslash⟩ none cs

theorem readString_quoted (cs rest : List Char) :
    readString .characters none (cs.flatMap escape ++ '"' :: rest) = ⟨cs, none, .ok rest⟩ := by
  induction cs with
  | nil => rfl
  | cons c cs ih =>
    rw [List.flatMap_cons, List.append_assoc, readString_escape, ih]
    rfl

theorem ofString_quoted (s : String) (rest : List Char) :
    Draft.ofString .characters (s.toList.flatMap escape ++ '"' :: rest) =
      (.string s, some rest) := by
  rw [Draft.ofString, readString_quoted]
  simp [StringText.text, Units.text?, Except.toOption]

theorem text_quoted (s : String) (rest : List Char) :
    StringText.text .characters ⟨s.toList, none, .ok rest⟩ = .ok s := by
  simp [StringText.text, Units.text?]

end AnalyzerClient.Json
