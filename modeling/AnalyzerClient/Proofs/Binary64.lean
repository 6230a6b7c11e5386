import AnalyzerClient.Binary64.Shortest
import AnalyzerClient.Proofs.Json.Numeral

/-!
# The characters of a decimal

A number is written with digits, signs, a point and the mark of an exponent, in every layout
(`Binary64.isDecimal_of_mem_render`).
-/

namespace AnalyzerClient.Binary64

open Text.Numeral (isDigit isDigit_of_mem_digits)

variable {d : Decimal} {c : Char}

/-- Whether a character may stand in a decimal. -/
def isDecimal (c : Char) : Bool := isDigit c || ['.', '-', '+', 'e'].contains c

theorem isDecimal_of_isDigit (h : isDigit c = true) : isDecimal c = true := by
  rw [isDecimal, h, Bool.true_or]

theorem isDigit_of_mem_shortestFrom {magnitude : Nat} {top : Int} (fuel n : Nat)
    (h : c ∈ (shortestFrom magnitude top fuel n).digits) : isDigit c = true := by
  induction fuel generalizing n with
  | zero =>
    rw [shortestFrom, List.mem_singleton] at h
    rw [h]
    decide
  | succ fuel ih =>
    rw [shortestFrom] at h
    dsimp only at h
    split at h
    · next j _ =>
      have hmem := (List.dropWhile_sublist _).subset (List.mem_reverse.mp h)
      exact isDigit_of_mem_digits (n := j) (List.mem_reverse.mp hmem)
    · exact ih (n + 1) h

theorem isDigit_of_mem_shortest {magnitude : Nat} (h : c ∈ (shortest magnitude).digits) :
    isDigit c = true := isDigit_of_mem_shortestFrom 17 1 h

theorem isDecimal_of_mem_zeros {n : Nat} (h : c ∈ List.replicate n '0') : isDecimal c = true := by
  rw [List.eq_of_mem_replicate h]
  decide

theorem isDecimal_of_mem_positional (hd : ∀ c ∈ d.digits, isDigit c = true)
    (h : c ∈ d.positional) : isDecimal c = true := by
  have hdigit (hc : c ∈ d.digits) := isDecimal_of_isDigit (hd c hc)
  unfold Decimal.positional at h
  dsimp only at h
  split at h
  · simp only [List.cons_append, List.mem_cons, List.mem_append] at h
    rcases h with rfl | rfl | h | h
    · decide
    · decide
    · exact isDecimal_of_mem_zeros h
    · exact hdigit h
  · split at h
    · simp only [List.mem_cons, List.mem_append, List.not_mem_nil, or_false] at h
      rcases h with (h | h) | rfl | rfl
      · exact hdigit h
      · exact isDecimal_of_mem_zeros h
      · decide
      · decide
    · simp only [List.mem_cons, List.mem_append] at h
      rcases h with h | rfl | h
      · exact hdigit (List.mem_of_mem_take h)
      · decide
      · exact hdigit (List.mem_of_mem_drop h)

theorem isDecimal_of_mem_scientific (hd : ∀ c ∈ d.digits, isDigit c = true)
    (h : c ∈ d.scientific) : isDecimal c = true := by
  have hdigit (hc : c ∈ d.digits) := isDecimal_of_isDigit (hd c hc)
  unfold Decimal.scientific at h
  dsimp only at h
  simp only [List.mem_append, List.mem_cons] at h
  rcases h with (h | h) | rfl | rfl | h
  · exact hdigit (List.mem_of_mem_take h)
  · split at h
    · cases h
    · rcases List.mem_cons.mp h with rfl | h
      · decide
      · exact hdigit (List.mem_of_mem_drop h)
  · decide
  · split <;> decide
  · exact isDecimal_of_isDigit (isDigit_of_mem_digits h)

theorem isDecimal_of_mem_render (style : Layout) (x : Binary64) (h : c ∈ x.render style) :
    isDecimal c = true := by
  rw [render] at h
  dsimp only at h
  generalize hbody : ite (x.magnitude = 0) _ _ = body at h
  have hall : ∀ c ∈ body, isDecimal c = true := by
    intro c hc
    rw [← hbody] at hc
    split at hc
    · have hzero : ['0', '.', '0'].all isDecimal = true := by decide
      exact List.all_eq_true.mp hzero c hc
    · split at hc
      · exact isDecimal_of_mem_positional (fun _ => isDigit_of_mem_shortest) hc
      · exact isDecimal_of_mem_scientific (fun _ => isDigit_of_mem_shortest) hc
  split at h
  · rcases List.mem_cons.mp h with rfl | h
    · decide
    · exact hall c h
  · exact hall c h

end AnalyzerClient.Binary64
