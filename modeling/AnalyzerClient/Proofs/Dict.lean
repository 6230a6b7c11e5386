import AnalyzerClient.Dict

/-!
# Dictionaries whose keys increase

Every dictionary that is built by insertions has increasing keys (`Dict.Sorted.insert`). On such a
dictionary a key has at most one value, so that laying it over another one (`Dict.get?_overlay`),
picking values (`Dict.get?_pick`) and inserting its pairs anew, in any order
(`Dict.ofList_of_perm`), say what the names promise.
-/

namespace AnalyzerClient.Dict

variable {α β : Type} {d lower upper : Dict α} {k key : String} {v value : α}

theorem get?_insert (d : Dict α) (key other : String) (value : α) :
    (d.insert key value).get? other = if other = key then some value else d.get? other := by
  split
  · next h => subst h; exact get?_insert_self ..
  · next h => exact get?_insert_of_ne d value h

@[simp] theorem get?_append (d e : Dict α) (key : String) :
    get? (d ++ e) key = (d.get? key).or (e.get? key) := List.lookup_append

theorem mem_of_get? (h : d.get? key = some value) : (key, value) ∈ d := by
  induction d with
  | nil => cases h
  | cons p d ih =>
    obtain ⟨k, v⟩ := p
    rw [get?_cons] at h
    split at h
    · next hk => cases h; subst hk; exact List.mem_cons_self
    · exact List.mem_cons_of_mem _ (ih h)

theorem get?_eq_none (h : ∀ p ∈ d, p.1 ≠ key) : d.get? key = none := by
  cases hg : d.get? key with
  | none => rfl
  | some v => exact absurd rfl (h _ (mem_of_get? hg))

/-! ## Increasing keys -/

namespace Sorted

theorem nil : Sorted ([] : Dict α) := List.Pairwise.nil

theorem tail (h : Sorted ((k, v) :: d)) : Sorted d := (List.pairwise_cons.mp h).2

theorem head_lt (h : Sorted ((k, v) :: d)) : ∀ p ∈ d, k < p.1 := (List.pairwise_cons.mp h).1

/-- The first key of a dictionary stands nowhere behind. -/
theorem get?_tail (h : Sorted ((k, v) :: d)) : d.get? k = none :=
  get?_eq_none fun p hp he => String.lt_irrefl k (by simpa only [he] using h.head_lt p hp)

end Sorted

theorem mem_insert {p : String × α} (h : p ∈ d.insert key value) : p = (key, value) ∨ p ∈ d := by
  induction d with
  | nil => exact .inl (List.mem_singleton.mp h)
  | cons q d ih =>
    obtain ⟨k, v⟩ := q
    unfold insert at h
    split at h
    · exact List.mem_cons.mp h
    · split at h
      · rcases List.mem_cons.mp h with h | h
        · exact .inl h
        · exact .inr (List.mem_cons_of_mem _ h)
      · rcases List.mem_cons.mp h with h | h
        · exact .inr (h ▸ List.mem_cons_self)
        · exact (ih h).imp_right (List.mem_cons_of_mem _)

theorem Sorted.insert (h : Sorted d) : Sorted (d.insert key value) := by
  induction d with
  | nil => exact List.pairwise_singleton ..
  | cons p d ih =>
    obtain ⟨k, v⟩ := p
    unfold Dict.insert
    split
    · next hlt =>
      refine List.pairwise_cons.mpr ⟨fun q hq => ?_, h⟩
      rcases List.mem_cons.mp hq with rfl | hq
      · exact hlt
      · exact String.lt_trans hlt (h.head_lt q hq)
    · next hnlt =>
      split
      · next he => subst he; exact List.pairwise_cons.mpr ⟨h.head_lt, h.tail⟩
      · next hne =>
        refine List.pairwise_cons.mpr ⟨fun q hq => ?_, ih h.tail⟩
        rcases mem_insert hq with rfl | hq
        · exact String.not_le.mp fun hle => hne (String.le_antisymm hle (String.not_lt.mp hnlt))
        · exact h.head_lt q hq

/-! ## Dictionaries made of pairs -/

theorem Sorted.foldl_insert (h : Sorted lower) (upper : List (String × α)) :
    Sorted (upper.foldl (fun d p => d.insert p.1 p.2) lower) := by
  induction upper generalizing lower with
  | nil => exact h
  | cons p upper ih => exact ih h.insert

theorem Sorted.ofList (pairs : List (String × α)) : Sorted (ofList pairs) :=
  Sorted.foldl_insert .nil pairs

theorem mem_foldl_insert {p : String × α} {upper : List (String × α)}
    (h : p ∈ upper.foldl (fun d q => d.insert q.1 q.2) lower) : p ∈ lower ∨ p ∈ upper := by
  induction upper generalizing lower with
  | nil => exact .inl h
  | cons q upper ih =>
    rcases ih h with h | h
    · rcases mem_insert h with rfl | h
      · exact .inr List.mem_cons_self
      · exact .inl h
    · exact .inr (List.mem_cons_of_mem _ h)

theorem mem_ofList {p : String × α} {pairs : List (String × α)} (h : p ∈ ofList pairs) :
    p ∈ pairs := (mem_foldl_insert h).resolve_left nofun

theorem Sorted.overlay (h : Sorted lower) (upper : Dict α) : Sorted (lower.overlay upper) :=
  Sorted.foldl_insert h upper

/-- What lies on top hides what lies below. -/
theorem get?_overlay (h : Sorted upper) (lower : Dict α) (key : String) :
    (lower.overlay upper).get? key = (upper.get? key).or (lower.get? key) := by
  induction upper generalizing lower with
  | nil => rfl
  | cons p upper ih =>
    obtain ⟨k, v⟩ := p
    have hrest := ih h.tail (lower.insert k v)
    simp only [overlay, List.foldl_cons] at hrest ⊢
    rw [hrest, get?_insert, get?_cons]
    by_cases hk : key = k
    · subst hk; rw [h.get?_tail]; simp
    · simp [hk]

/-- The values that a function picks, under their keys. -/
theorem get?_pick (h : Sorted d) (f : α → Option β) (key : String) :
    get? (d.filterMap fun p => (f p.2).map fun b => (p.1, b)) key = (d.get? key).bind f := by
  induction d with
  | nil => rfl
  | cons p d ih =>
    obtain ⟨k, v⟩ := p
    rw [get?_cons]
    by_cases hk : key = k
    · subst hk
      cases hf : f v with
      | none =>
        have hrest := ih h.tail
        rw [h.get?_tail] at hrest
        simpa [List.filterMap_cons, hf] using hrest
      | some b => simp [hf, get?_cons]
    · cases hf : f v with
      | none => simpa [List.filterMap_cons, hf, hk] using ih h.tail
      | some b => simpa [List.filterMap_cons, hf, hk, get?_cons] using ih h.tail

/-! ## Pairs in any order -/

theorem perm_insert (h : ∀ p ∈ d, p.1 ≠ key) : (d.insert key value).Perm ((key, value) :: d) := by
  induction d with
  | nil => exact .refl _
  | cons p d ih =>
    obtain ⟨k, v⟩ := p
    unfold insert
    split
    · exact .refl _
    · rw [if_neg (h (k, v) List.mem_cons_self).symm]
      exact ((ih fun p hp => h p (List.mem_cons_of_mem _ hp)).cons _).trans (.swap ..)

theorem perm_foldl_insert {upper : List (String × α)}
    (h : (upper ++ lower).Pairwise fun p q => p.1 ≠ q.1) :
    (upper.foldl (fun d p => d.insert p.1 p.2) lower).Perm (upper ++ lower) := by
  induction upper generalizing lower with
  | nil => exact .refl _
  | cons p upper ih =>
    obtain ⟨hp, hrest⟩ := List.pairwise_cons.mp h
    have hlower : (lower.insert p.1 p.2).Perm (p :: lower) :=
      perm_insert fun q hq => (hp q (List.mem_append_right _ hq)).symm
    have hmiddle : (upper ++ lower.insert p.1 p.2).Perm (p :: (upper ++ lower)) :=
      (hlower.append_left upper).trans List.perm_middle
    exact (ih (hmiddle.symm.pairwise h Ne.symm)).trans hmiddle

/-- A dictionary is made of its pairs in any order. -/
theorem ofList_of_perm {pairs : List (String × α)} (h : Sorted d) (hperm : pairs.Perm d) :
    ofList pairs = d := by
  have hkeys : (pairs ++ []).Pairwise fun (p q : String × α) => p.1 ≠ q.1 := by
    rw [List.append_nil]
    exact hperm.symm.pairwise (h.imp String.ne_of_lt) Ne.symm
  have hfold := perm_foldl_insert hkeys
  rw [List.append_nil] at hfold
  exact (hfold.trans hperm).eq_of_pairwise
    (fun p q _ _ hpq hqp => (String.lt_asymm hpq hqp).elim) (Sorted.ofList pairs) h

end AnalyzerClient.Dict
