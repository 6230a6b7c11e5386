import AnalyzerClient.Proofs.Dict
import AnalyzerClient.Settings.Store
import Mathlib.Data.List.Basic

/-!
# The layers of a store

A store is ordered when it has at most one layer of each priority, the lowest first. What an
operation does to the layer of a priority is said by one lemma for each (`Store.layer?_addLayer`,
`Store.layer?_ensureLayer`, `Store.layer?_put`), and `Store.get?_eq_findSome?` and
`Store.get?_all` say that the search from above and the merge from below give the same: what the
highest layer holds that has the key, or else the default of its schema.
-/

namespace AnalyzerClient.Settings

/-- The priorities, the lowest first. -/
def Priority.ascending : List Priority := [.default, .user, .workspace]

theorem Priority.mem_ascending (p : Priority) : p ∈ ascending := by cases p <;> decide

theorem Priority.eq_of_rank_eq {p q : Priority} (h : p.rank = q.rank) : p = q := by
  cases p <;> cases q <;> first | rfl | cases h

namespace Store

variable {s s' : Store} {p q : Priority} {key k : String} {value : Json} {layer l : Layer}
  {ls : List Layer} {e : Error}

/-- Layers of different priorities, the lowest first. -/
def Ascending (ls : List Layer) : Prop :=
  ls.Pairwise fun l l' => l.priority.rank < l'.priority.rank

/-- The priorities of the layers increase, and every dictionary of a store has a key only once. -/
structure Ordered (s : Store) : Prop where
  ascending : Ascending s.layers
  schemas : s.schemas.Sorted
  values : ∀ l ∈ s.layers, l.values.Sorted

/-- The value of a key in the layer of a priority. -/
def held? (s : Store) (p : Priority) (key : String) : Option Json :=
  (s.layer? p).bind (·.get? key)

theorem mem_of_layer? (h : s.layer? p = some l) : l ∈ s.layers ∧ l.priority = p :=
  ⟨List.mem_of_find?_eq_some h, by simpa using List.find?_some h⟩

theorem any_priority (s : Store) (p : Priority) :
    s.layers.any (·.priority == p) = (s.layer? p).isSome := by
  rw [layer?, Bool.eq_iff_iff, List.find?_isSome, List.any_eq_true]

/-! ## Lists of layers -/

theorem mem_insertLayer : l ∈ insertLayer layer ls ↔ l = layer ∨ l ∈ ls := by
  induction ls with
  | nil => simp [insertLayer]
  | cons a ls ih =>
    unfold insertLayer
    split
    · exact List.mem_cons
    · rw [List.mem_cons, ih, List.mem_cons]
      exact or_left_comm

theorem Ascending.insertLayer (h : Ascending ls) (hne : ∀ l ∈ ls, l.priority ≠ layer.priority) :
    Ascending (insertLayer layer ls) := by
  induction ls with
  | nil => exact List.pairwise_singleton ..
  | cons a ls ih =>
    obtain ⟨hlt, hls⟩ := List.pairwise_cons.mp h
    unfold Store.insertLayer
    split
    · next hrank =>
      refine List.pairwise_cons.mpr ⟨fun l hl => ?_, h⟩
      rcases List.mem_cons.mp hl with rfl | hl
      · exact hrank
      · exact Nat.lt_trans hrank (hlt l hl)
    · next hrank =>
      refine List.pairwise_cons.mpr
        ⟨fun l hl => ?_, ih hls fun l hl => hne l (List.mem_cons_of_mem _ hl)⟩
      rcases mem_insertLayer.mp hl with rfl | hl
      · have hrank' : a.priority.rank ≠ l.priority.rank := fun he =>
          hne a List.mem_cons_self (Priority.eq_of_rank_eq he)
        omega
      · exact hlt l hl

theorem find?_insertLayer (hne : ∀ l ∈ ls, l.priority ≠ layer.priority) :
    (insertLayer layer ls).find? (·.priority == p) =
      if layer.priority = p then some layer else ls.find? (·.priority == p) := by
  induction ls with
  | nil => by_cases hp : layer.priority = p <;> simp [insertLayer, hp]
  | cons a ls ih =>
    have hrest := ih fun l hl => hne l (List.mem_cons_of_mem _ hl)
    have ha : a.priority ≠ layer.priority := hne a List.mem_cons_self
    unfold insertLayer
    split
    · by_cases hp : layer.priority = p <;> simp [hp]
    · rw [List.find?_cons, List.find?_cons, hrest]
      by_cases hp : layer.priority = p
      · subst hp; simp [beq_eq_false_iff_ne.mpr ha]
      · simp [hp]

/-- Layers in order are the layers of the priorities in order. -/
theorem Ascending.eq_filterMap (h : Ascending ls) {ps : List Priority}
    (hps : ps.Pairwise fun p q => p.rank < q.rank) (hmem : ∀ l ∈ ls, l.priority ∈ ps) :
    ls = ps.filterMap fun p => ls.find? (·.priority == p) := by
  induction ps generalizing ls with
  | nil =>
    cases ls with
    | nil => rfl
    | cons l ls => cases hmem l List.mem_cons_self
  | cons p ps ih =>
    obtain ⟨hp, hps'⟩ := List.pairwise_cons.mp hps
    by_cases hfirst : ∃ l ls', ls = l :: ls' ∧ l.priority = p
    · obtain ⟨l, rest, rfl, rfl⟩ := hfirst
      obtain ⟨hlt, hrest⟩ := List.pairwise_cons.mp h
      have hmem' : ∀ l' ∈ rest, l'.priority ∈ ps := fun l' hl' => by
        rcases List.mem_cons.mp (hmem l' (List.mem_cons_of_mem _ hl')) with he | hm
        · exact absurd (hlt l' hl') (by rw [he]; exact Nat.lt_irrefl _)
        · exact hm
      have hskip : ∀ q ∈ ps, (l :: rest).find? (·.priority == q) =
          rest.find? (·.priority == q) :=
        fun q hq => by
          have hne : l.priority ≠ q := by
            rintro rfl
            exact Nat.lt_irrefl _ (hp _ hq)
          rw [List.find?_cons, beq_eq_false_iff_ne.mpr hne]
      rw [List.filterMap_cons, List.find?_cons, beq_self_eq_true,
        List.filterMap_congr hskip, ← ih hrest hps' hmem']
    · have hne : ∀ l ∈ ls, l.priority ≠ p := by
        intro l hl he
        cases ls with
        | nil => cases hl
        | cons a ls =>
          have ha : a.priority ≠ p := fun hap => hfirst ⟨a, ls, rfl, hap⟩
          have hap := (List.mem_cons.mp (hmem a List.mem_cons_self)).resolve_left ha
          rcases List.mem_cons.mp hl with rfl | hl
          · exact ha he
          · have hlt := (List.pairwise_cons.mp h).1 l hl
            have hgt := hp _ hap
            rw [he] at hlt; omega
      have hnone : ls.find? (·.priority == p) = none :=
        List.find?_eq_none.mpr fun l hl => by simpa using hne l hl
      rw [List.filterMap_cons, hnone]
      exact ih h hps' fun l hl =>
        (List.mem_cons.mp (hmem l hl)).resolve_left (hne l hl)

theorem Ordered.layers_eq (h : s.Ordered) : s.layers = Priority.ascending.filterMap s.layer? :=
  h.ascending.eq_filterMap (by decide) fun l _ => l.priority.mem_ascending

/-! ## Searching and merging -/

theorem findSome?_filterMap {α β γ : Type} (f : α → Option β) (g : β → Option γ) (xs : List α) :
    (xs.filterMap f).findSome? g = xs.findSome? fun a => (f a).bind g := by
  induction xs with
  | nil => rfl
  | cons a xs ih => cases hf : f a <;> simp [hf, ih, List.findSome?_cons]

/-- The search from above goes through the priorities, the highest first. -/
theorem Ordered.get?_eq_findSome? (h : s.Ordered) (key : String) :
    s.get? key = (Priority.ascending.reverse.findSome? (s.held? · key)).or
      ((s.schemas.get? key).bind (·.default)) := by
  have hsearch : s.layers.reverse.findSome? (·.get? key) =
      Priority.ascending.reverse.findSome? (s.held? · key) := by
    conv => lhs; rw [h.layers_eq]
    rw [← List.filterMap_reverse, findSome?_filterMap]
    rfl
  rw [get?, hsearch]
  cases Priority.ascending.reverse.findSome? (s.held? · key) <;> rfl

theorem get?_eq_of_held (hs : s.Ordered) (hs' : s'.Ordered) (hschemas : s'.schemas = s.schemas)
    (hheld : ∀ q, s'.held? q key = s.held? q key) : s'.get? key = s.get? key := by
  rw [hs.get?_eq_findSome?, hs'.get?_eq_findSome?, hschemas]
  simp only [hheld]

theorem get?_foldl_overlay (hvalues : ∀ l ∈ ls, l.values.Sorted) (d : Dict Json) (key : String) :
    (ls.foldl (fun d l => d.overlay l.values) d).get? key =
      (ls.reverse.findSome? (·.get? key)).or (d.get? key) := by
  induction ls generalizing d with
  | nil => rfl
  | cons l ls ih =>
    rw [List.foldl_cons, ih fun l hl => hvalues l (List.mem_cons_of_mem _ hl),
      Dict.get?_overlay (hvalues l List.mem_cons_self), List.reverse_cons, List.findSome?_append,
      Option.or_assoc]
    simp [Layer.get?]

/-- The merge from below gives what the search from above gives. -/
theorem Ordered.get?_all (h : s.Ordered) (key : String) : s.all.get? key = s.get? key := by
  have hdefaults : s.defaults.get? key = (s.schemas.get? key).bind (·.default) :=
    Dict.get?_pick h.schemas (·.default) key
  rw [all, get?_foldl_overlay h.values, hdefaults, get?]
  cases s.layers.reverse.findSome? (·.get? key) <;> rfl

/-! ## Registering -/

theorem Ordered.register (h : s.Ordered) (key : String) (schema : Schema) :
    (s.register key schema).Ordered :=
  ⟨h.ascending, h.schemas.insert, h.values⟩

/-! ## Adding a layer -/

theorem priority_ne_of_mem_filter (hl : l ∈ ls.filter (·.priority != layer.priority)) :
    l.priority ≠ layer.priority := by
  simpa using (List.mem_filter.mp hl).2

theorem layer?_addLayer (s : Store) (layer : Layer) (p : Priority) :
    (s.addLayer layer).layer? p = if layer.priority = p then some layer else s.layer? p := by
  rw [layer?, addLayer, find?_insertLayer fun l hl => priority_ne_of_mem_filter hl]
  by_cases hp : layer.priority = p
  · rw [if_pos hp, if_pos hp]
  · rw [if_neg hp, if_neg hp, List.find?_filter, layer?]
    congr 1
    funext l
    by_cases hl : l.priority = p
    · simp [hl, Ne.symm hp]
    · simp [hl]

theorem Ordered.addLayer (h : s.Ordered) (hsorted : layer.values.Sorted) :
    (s.addLayer layer).Ordered := by
  refine ⟨?_, h.schemas, fun l hl => ?_⟩
  · exact Ascending.insertLayer (h.ascending.sublist List.filter_sublist)
      fun l hl => priority_ne_of_mem_filter hl
  · rcases mem_insertLayer.mp hl with rfl | hl
    · exact hsorted
    · exact h.values l (List.mem_filter.mp hl).1

theorem layer?_ensureLayer (s : Store) (p q : Priority) :
    (s.ensureLayer p).layer? q =
      if p = q then some ((s.layer? p).getD (.empty p)) else s.layer? q := by
  unfold ensureLayer
  rw [any_priority]
  split
  · next hsome =>
    obtain ⟨l, hl⟩ := Option.isSome_iff_exists.mp hsome
    split
    · next hp => subst hp; rw [hl]; rfl
    · rfl
  · next hnone =>
    rw [layer?_addLayer, Option.not_isSome_iff_eq_none.mp hnone]
    rfl

theorem Ordered.ensureLayer (h : s.Ordered) (p : Priority) : (s.ensureLayer p).Ordered := by
  unfold Store.ensureLayer
  split
  · exact h
  · exact h.addLayer .nil

/-! ## Setting a value -/

/-- The store in which a key has a value in the layer of a priority. -/
def put (s : Store) (key : String) (value : Json) (p : Priority) : Store :=
  { s with layers := s.layers.map fun l => if l.priority == p then l.set key value else l }

theorem set_eq (s : Store) (key : String) (value : Json) (p : Priority) :
    s.set key value p = match s.validate key value with
      | .error e => .error e
      | .ok () =>
        if (s.layer? p).isSome then .ok (s.put key value p) else .error (.missingLayer p) := by
  simp only [set, bind, Except.bind]
  cases s.validate key value with
  | error e => rfl
  | ok _ => cases s.layer? p <;> rfl

theorem set_eq_ok_iff : s.set key value p = .ok s' ↔
    s.validate key value = .ok () ∧ (s.layer? p).isSome ∧ s' = s.put key value p := by
  rw [set_eq]
  cases s.validate key value with
  | error e => simp
  | ok _ => by_cases hl : (s.layer? p).isSome <;> simp [hl, eq_comm]

theorem set_eq_error_iff : s.set key value p = .error e ↔ s.validate key value = .error e ∨
    (s.validate key value = .ok () ∧ s.layer? p = none ∧ e = .missingLayer p) := by
  rw [set_eq]
  cases s.validate key value with
  | error e => simp
  | ok _ => cases s.layer? p <;> simp [eq_comm]

theorem priority_put (p : Priority) (l : Layer) :
    (if l.priority == p then l.set key value else l).priority = l.priority := by
  split <;> rfl

theorem layer?_put (s : Store) (key : String) (value : Json) (p q : Priority) :
    (s.put key value p).layer? q =
      if p = q then (s.layer? p).map (·.set key value) else s.layer? q := by
  have hfind : (s.put key value p).layer? q = (s.layer? q).map
      fun l => if l.priority == p then l.set key value else l := by
    simp only [layer?, put, List.find?_map]
    congr 2
    funext l
    exact congrArg (· == q) (priority_put p l)
  rw [hfind]
  cases hq : s.layer? q with
  | none =>
    split
    · next hp => subst hp; rw [hq]; rfl
    · rfl
  | some l =>
    have hl : l.priority = q := (mem_of_layer? hq).2
    split
    · next hp => subst hp; simp [hq, hl]
    · next hp => simp [hl, Ne.symm hp]

theorem Ordered.put (h : s.Ordered) (key : String) (value : Json) (p : Priority) :
    (s.put key value p).Ordered := by
  refine ⟨?_, h.schemas, fun l hl => ?_⟩
  · exact List.pairwise_map.mpr (h.ascending.imp fun hlt => by
      simpa only [priority_put] using hlt)
  · obtain ⟨l', hl', rfl⟩ := List.mem_map.mp hl
    split
    · exact (h.values l' hl').insert
    · exact h.values l' hl'

end Store

end AnalyzerClient.Settings
