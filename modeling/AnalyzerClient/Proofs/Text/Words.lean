import AnalyzerClient.Text.Blank

/-!
# The words of joined texts

A blank parts the words in front of it from those behind it (`Chars.words_append`), and a text
without blanks is one word (`words_of_unbroken`). So the words of texts that are joined with spaces
are the words of each of them, in order (`words_intercalate`).
-/

namespace AnalyzerClient.Text

namespace Chars

variable {p : Char → Bool} {b : Char} {s t : List Char}

-- The equations are generated here, once, so that no proof waits for another to do it.
attribute [grind =] pieces

theorem pieces_ne_nil (p : Char → Bool) (s : List Char) : pieces p s ≠ [] := by
  cases s with
  | nil => exact List.cons_ne_nil _ _
  | cons c s =>
    rw [pieces]
    repeat' split
    all_goals exact List.cons_ne_nil _ _

theorem pieces_append (hb : p b = true) (s t : List Char) :
    pieces p (s ++ b :: t) = pieces p s ++ pieces p t := by
  induction s with
  | nil =>
    obtain ⟨piece, rest, ht⟩ := List.exists_cons_of_ne_nil (pieces_ne_nil p t)
    simp [pieces, ht, hb]
  | cons c s ih =>
    obtain ⟨piece, rest, hs⟩ := List.exists_cons_of_ne_nil (pieces_ne_nil p s)
    rw [List.cons_append, pieces, pieces, ih, hs]
    by_cases hc : p c = true <;> simp [hc]

theorem pieces_of_forall (h : ∀ c ∈ s, p c = false) : pieces p s = [s] := by
  induction s with
  | nil => rfl
  | cons c s ih =>
    have hc := h c List.mem_cons_self
    simp [pieces, ih fun a ha => h a (List.mem_cons_of_mem _ ha), hc]

theorem mem_pieces {piece : List Char} (h : piece ∈ pieces p s) : ∀ c ∈ piece, p c = false := by
  induction s generalizing piece with
  | nil =>
    rw [pieces, List.mem_singleton] at h
    subst h
    nofun
  | cons c s ih =>
    obtain ⟨first, rest, hs⟩ := List.exists_cons_of_ne_nil (pieces_ne_nil p s)
    rw [hs] at ih
    have hfirst := ih List.mem_cons_self
    have hrest (hmem : piece ∈ rest) := ih (List.mem_cons_of_mem _ hmem)
    rw [pieces, hs] at h
    cases hc : p c with
    | true =>
      have hmem : piece = [] ∨ piece = first ∨ piece ∈ rest := by simpa [hc] using h
      rcases hmem with rfl | rfl | hmem
      · nofun
      · exact hfirst
      · exact hrest hmem
    | false =>
      have hmem : piece = c :: first ∨ piece ∈ rest := by simpa [hc] using h
      rcases hmem with rfl | hmem
      · exact List.forall_mem_cons.mpr ⟨hc, hfirst⟩
      · exact hrest hmem

theorem words_append (hb : isBlank b = true) (s t : List Char) :
    words (s ++ b :: t) = words s ++ words t := by
  rw [words, pieces_append hb, List.filter_append, words, words]

end Chars

/-- A text that is a single word. -/
structure Unbroken (s : String) : Prop where
  ne_empty : s ≠ ""
  noBlank : ∀ c ∈ s.toList, isBlank c = false

theorem unbroken_iff {s : String} : Unbroken s ↔ s ≠ "" ∧ s.toList.all (!isBlank ·) = true := by
  simp only [List.all_eq_true, Bool.not_eq_true']
  exact ⟨fun h => ⟨h.ne_empty, h.noBlank⟩, fun h => ⟨h.1, h.2⟩⟩

instance (s : String) : Decidable (Unbroken s) := decidable_of_iff' _ unbroken_iff

variable {s : String} {texts : List String}

theorem words_of_unbroken (h : Unbroken s) : words s = [s] := by
  have hne : s.toList ≠ [] := by simpa using h.ne_empty
  simp [words, Chars.words, Chars.pieces_of_forall h.noBlank, hne]

theorem unbroken_of_mem_words {word : String} (h : word ∈ words s) : Unbroken word := by
  obtain ⟨cs, hcs, rfl⟩ := List.mem_map.mp h
  obtain ⟨hpiece, hne⟩ := List.mem_filter.mp hcs
  refine ⟨fun he => ?_, ?_⟩
  · have hnil : cs = [] := by simpa using congrArg String.toList he
    simp [hnil] at hne
  · rw [String.toList_ofList]
    exact Chars.mem_pieces hpiece

theorem words_append_space (s t : String) : words (s ++ " " ++ t) = words s ++ words t := by
  have hchars : (s ++ " " ++ t).toList = s.toList ++ ' ' :: t.toList := by simp
  rw [words, hchars, Chars.words_append (by decide), List.map_append, words, words]

theorem words_intercalate (texts : List String) :
    words (" ".intercalate texts) = texts.flatMap words := by
  induction texts with
  | nil => rfl
  | cons s texts ih =>
    cases texts with
    | nil => simp
    | cons t texts =>
      rw [String.intercalate_cons_cons, words_append_space, ih]
      exact List.flatMap_cons.symm

theorem flatMap_words_of_unbroken (h : ∀ s ∈ texts, Unbroken s) : texts.flatMap words = texts := by
  induction texts with
  | nil => rfl
  | cons s texts ih =>
    rw [List.flatMap_cons, words_of_unbroken (h s List.mem_cons_self),
      ih fun t ht => h t (List.mem_cons_of_mem _ ht), List.singleton_append]

/-- Texts are their own words only if each of them is a word. -/
theorem flatMap_words_eq_self_iff : texts.flatMap words = texts ↔ ∀ s ∈ texts, Unbroken s := by
  refine ⟨fun h s hs => ?_, flatMap_words_of_unbroken⟩
  rw [← h] at hs
  obtain ⟨t, -, hword⟩ := List.mem_flatMap.mp hs
  exact unbroken_of_mem_words hword

end AnalyzerClient.Text
