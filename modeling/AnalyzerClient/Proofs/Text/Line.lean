import AnalyzerClient.Text.Line
import Mathlib.Data.List.Basic

/-!
# The lines of a stream

`Line.lines` cuts a whole stream into its lines at once, and `Line.next?` takes them from it one by
one (`Line.lines_of_next?`).
-/

namespace AnalyzerClient.Text.Line

variable {line rest bs : List UInt8}

theorem split_append {line : List UInt8} (h : 10 ∉ line) (rest : List UInt8) :
    split (line ++ 10 :: rest) = (line ++ [10], rest) := by
  induction line with
  | nil => rfl
  | cons b line ih =>
    obtain ⟨hne, hline⟩ := not_or.mp (mt List.mem_cons.mpr h)
    rw [List.cons_append, split, if_neg (Ne.symm hne), ih hline]
    rfl

theorem next?_append {line : List UInt8} (h : 10 ∉ line) (rest : List UInt8) :
    next? (line ++ 10 :: rest) = some (line ++ [10], rest) := by
  rw [next?, split_append h, if_neg (by simp)]

theorem split_of_not_mem (h : 10 ∉ bs) : split bs = (bs, []) := by
  induction bs with
  | nil => rfl
  | cons b bs ih =>
    obtain ⟨hne, hbs⟩ := not_or.mp (mt List.mem_cons.mpr h)
    rw [split, if_neg (Ne.symm hne), ih hbs]

theorem next?_of_not_mem (h : 10 ∉ bs) (hne : bs ≠ []) : next? bs = some (bs, []) := by
  rw [next?, split_of_not_mem h, if_neg (by simpa using hne)]

theorem next?_eq_none (h : next? bs = none) : bs = [] := by
  cases bs with
  | nil => rfl
  | cons b bs => cases h

/-! ## All lines at once -/

/-- A line without one carriage return at its end. -/
def withoutReturn (line : List UInt8) : List UInt8 :=
  if line.getLast? = some 13 then line.dropLast else line

/-- The lines of a stream: what a newline ends, without one carriage return before it, and what
stands behind the last newline, unless nothing does. -/
def lines (bs : List UInt8) : List (List UInt8) :=
  let pieces := bs.splitOn 10
  pieces.dropLast.map withoutReturn ++ pieces.getLast?.toList.filter (· ≠ [])

@[simp] theorem lines_nil : lines [] = [] := by simp [lines]

theorem lines_append (h : 10 ∉ line) (rest : List UInt8) :
    lines (line ++ 10 :: rest) = withoutReturn line :: lines rest := by
  have hpieces : (line ++ 10 :: rest).splitOn 10 = line :: rest.splitOn 10 := by
    refine List.splitOnP_append_cons_of_forall_mem ?_ 10 rfl rest
    intro b hb
    exact beq_false_of_ne (ne_of_mem_of_not_mem hb h)
  cases hrest : rest.splitOn 10 with
  | nil => exact absurd hrest (List.splitOn_ne_nil 10 rest)
  | cons piece pieces => simp [lines, hpieces, hrest]

theorem lines_of_not_mem (h : 10 ∉ bs) (hne : bs ≠ []) : lines bs = [bs] := by
  simp [lines, List.splitOn_eq_singleton h, hne]

/-- Lines behind whole lines. -/
theorem lines_append_of_ended (h : ∀ b ∈ bs.getLast?, b = 10) (rest : List UInt8) :
    lines (bs ++ rest) = lines bs ++ lines rest := by
  induction hn : bs.length using Nat.strongRecOn generalizing bs with
  | ind n ih =>
    cases hlast : bs.getLast? with
    | none =>
      rw [List.getLast?_eq_none_iff.mp hlast, lines_nil]
      rfl
    | some b =>
      obtain rfl := h b hlast
      obtain ⟨front, back, rfl, hfront⟩ := List.eq_append_cons_of_mem (List.mem_of_getLast? hlast)
      have hback : ∀ b ∈ back.getLast?, b = 10 := by
        intro b hb
        refine h b ?_
        rw [List.getLast?_append, List.getLast?_cons, Option.mem_def.mp hb]
        rfl
      have hlength : back.length < n := by
        rw [← hn, List.length_append, List.length_cons]
        omega
      rw [List.append_assoc, List.cons_append, lines_append hfront, lines_append hfront,
        ih back.length hlength hback rfl, List.cons_append]

theorem chomp_append (line : List UInt8) : chomp (line ++ [10]) = withoutReturn line := by
  rcases List.eq_nil_or_concat line with rfl | ⟨front, b, rfl⟩
  · rfl
  · rw [List.concat_eq_append]
    by_cases hb : b = 13
    · subst hb
      simp [chomp, withoutReturn]
    · simp [chomp, withoutReturn, hb]

theorem chomp_of_not_mem (h : 10 ∉ line) : chomp line = line := by
  have hreverse : 10 ∉ line.reverse := mt List.mem_reverse.mp h
  unfold chomp
  split
  · next heq => exact absurd (heq ▸ List.mem_cons_self) hreverse
  · next heq => exact absurd (heq ▸ List.mem_cons_self) hreverse
  · rfl

/-- A line that is taken from a stream is the first of its lines. -/
theorem lines_of_next? (h : next? bs = some (line, rest)) :
    lines bs = chomp line :: lines rest := by
  by_cases hmem : 10 ∈ bs
  · obtain ⟨front, back, rfl, hfront⟩ := List.eq_append_cons_of_mem hmem
    rw [next?_append hfront] at h
    cases h
    rw [lines_append hfront, chomp_append]
  · have hne : bs ≠ [] := by rintro rfl; cases h
    rw [next?_of_not_mem hmem hne] at h
    cases h
    rw [lines_of_not_mem hmem hne, chomp_of_not_mem hmem, lines_nil]

end AnalyzerClient.Text.Line
