import AnalyzerClient.Text.Blank
import AnalyzerClient.Text.Numeral
import Mathlib.Data.List.DropRight

/-!
# Trimming and splitting

What trimming and splitting do at the ends of a text, and which characters are no blanks.
-/

namespace AnalyzerClient.Text

namespace Chars

variable {cs bs : List Char} {c : Char}

theorem trimStart_of_head (hc : isBlank c = false) : trimStart (c :: cs) = c :: cs := by
  rw [trimStart, List.dropWhile_cons, hc]; rfl

theorem trimEnd_append (hbs : ∀ c ∈ bs, isBlank c = true) : trimEnd (cs ++ bs) = trimEnd cs := by
  rw [trimEnd, trimEnd, List.reverse_append,
    List.dropWhile_append_of_pos fun c hc => hbs c (List.mem_reverse.mp hc)]

theorem trimEnd_concat (hc : isBlank c = false) : trimEnd (cs ++ [c]) = cs ++ [c] := by
  rw [trimEnd, List.reverse_append, List.reverse_singleton, List.singleton_append,
    List.dropWhile_cons, hc]
  simp

theorem trim_append (hbs : ∀ c ∈ bs, isBlank c = true) : trim (cs ++ bs) = trim cs := by
  rw [trim, trim, trimStart, trimStart, List.dropWhile_append]
  split
  · next hnil =>
    rw [List.dropWhile_eq_nil_iff.mpr hbs, List.isEmpty_iff.mp hnil]
  · exact trimEnd_append hbs

theorem trim_eq_nil_iff : trim cs = [] ↔ ∀ c ∈ cs, isBlank c = true := by
  constructor
  · intro h
    have hstart : ∀ c ∈ trimStart cs, isBlank c = true := by
      rw [trim, trimEnd, List.reverse_eq_nil_iff, List.dropWhile_eq_nil_iff] at h
      exact fun c hc => h c (List.mem_reverse.mpr hc)
    have hnil : trimStart cs = [] := by
      rw [← List.dropWhile_eq_nil_iff.mpr hstart, trimStart, List.dropWhile_idempotent]
    exact List.dropWhile_eq_nil_iff.mp hnil
  · intro h
    rw [trim, trimStart, List.dropWhile_eq_nil_iff.mpr h]
    rfl

theorem splitOnce_append (hcs : c ∉ cs) (rest : List Char) :
    splitOnce c (cs ++ c :: rest) = some (cs, rest) := by
  induction cs with
  | nil => rw [List.nil_append, splitOnce, if_pos rfl]
  | cons a cs ih =>
    obtain ⟨hne, hcs⟩ := not_or.mp (mt List.mem_cons.mpr hcs)
    rw [List.cons_append, splitOnce, if_neg (Ne.symm hne), ih hcs]
    rfl

theorem eq_append_of_splitOnce {before after : List Char}
    (h : splitOnce c cs = some (before, after)) : cs = before ++ c :: after ∧ c ∉ before := by
  induction cs generalizing before with
  | nil => cases h
  | cons a cs ih =>
    rw [splitOnce] at h
    split at h
    · next ha =>
      cases h
      exact ⟨by rw [ha, List.nil_append], List.not_mem_nil⟩
    · next ha =>
      obtain ⟨⟨front, back⟩, hsplit, heq⟩ := Option.map_eq_some_iff.mp h
      cases heq
      obtain ⟨rfl, hfront⟩ := ih hsplit
      refine ⟨rfl, fun hmem => ?_⟩
      rcases List.mem_cons.mp hmem with rfl | hmem
      · exact ha rfl
      · exact hfront hmem

end Chars

namespace Numeral

theorem isDigit_iff {c : Char} : isDigit c = true ↔ 48 ≤ c.toNat ∧ c.toNat ≤ 57 := by
  simp [isDigit, Char.le_def, UInt32.le_iff_toNat_le]

theorem isBlank_of_isDigit {c : Char} (h : isDigit c = true) : isBlank c = false := by
  have hrange := isDigit_iff.mp h
  simp [isBlank, blankRanges]
  omega

end Numeral

end AnalyzerClient.Text
