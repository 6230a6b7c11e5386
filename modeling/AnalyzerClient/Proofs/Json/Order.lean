import AnalyzerClient.Json.Draft
import AnalyzerClient.Proofs.Json.Shape
import Mathlib.Data.List.Perm.Basic

/-!
# Members in any order

A text may give the members of an object in any order. `Json.Reordered v w` says that `w` is `v`
with the members of every object in some order. What is read of it is `v` again
(`Reordered.value`), its text can be read if that of `v` can (`Reordered.textual`), and its members
are those of `v` (`Reordered.exists_members`).
-/

namespace AnalyzerClient.Json

/-- Induction with a case for every kind of value; items and members stand in a list. -/
@[elab_as_elim]
theorem nestedInduction {motive : Json → Prop} (null : motive .null) (bool : ∀ b, motive (.bool b))
    (number : ∀ n, motive (.number n)) (string : ∀ s, motive (.string s))
    (array : ∀ vs, (∀ v ∈ vs, motive v) → motive (.array vs))
    (object : ∀ ms, (∀ p ∈ ms, motive p.2) → motive (.object ms)) (v : Json) : motive v :=
  @Json.rec motive (fun vs => ∀ v ∈ vs, motive v) (fun ms => ∀ p ∈ ms, motive p.2)
    (fun p => motive p.2) null bool number string array object nofun
    (fun _ _ hv hvs => List.forall_mem_cons.mpr ⟨hv, hvs⟩) nofun
    (fun _ _ hp hms => List.forall_mem_cons.mpr ⟨hp, hms⟩) (fun _ _ hv => hv) v

/-! ## Reordered values -/

mutual

/-- The members of every object may stand in another order in the second value. -/
def Reordered : Json → Json → Prop
  | .array vs, w => ∃ ws, ReorderedItems vs ws ∧ w = .array ws
  | .object ms, w => ∃ ns ns', ReorderedMembers ms ns ∧ ns.Perm ns' ∧ w = .object ns'
  | v, w => w = v

/-- The items stand where they stood, each of them reordered. -/
def ReorderedItems : List Json → List Json → Prop
  | [], ws => ws = []
  | v :: vs, ws => ∃ w ws', v.Reordered w ∧ ReorderedItems vs ws' ∧ ws = w :: ws'

/-- The members stand where they stood, the value of each of them reordered. -/
def ReorderedMembers : List (String × Json) → List (String × Json) → Prop
  | [], ns => ns = []
  | (k, v) :: ms, ns => ∃ w ns', v.Reordered w ∧ ReorderedMembers ms ns' ∧ ns = (k, w) :: ns'

end

/-- Two members have the same key, and the value of the second is that of the first reordered. -/
def SameMember (p q : String × Json) : Prop := p.1 = q.1 ∧ p.2.Reordered q.2

-- The equations are generated here, once, so that no proof waits for another to do it.
attribute [grind =] Reordered ReorderedItems ReorderedMembers Draft.value Draft.values
  Draft.memberValues Draft.ofJson Draft.ofItems Draft.ofMembers

variable {v w : Json} {vs ws : List Json} {ms ns : List (String × Json)} {s : String} {n : Nat}

theorem reorderedItems_iff : ReorderedItems vs ws ↔ List.Forall₂ Reordered vs ws := by
  induction vs generalizing ws with
  | nil => rw [ReorderedItems, List.forall₂_nil_left_iff]
  | cons v vs ih => simp only [ReorderedItems, List.forall₂_cons_left_iff, ih]

theorem reorderedMembers_iff : ReorderedMembers ms ns ↔ List.Forall₂ SameMember ms ns := by
  induction ms generalizing ns with
  | nil => rw [ReorderedMembers, List.forall₂_nil_left_iff]
  | cons p ms ih =>
    obtain ⟨k, v⟩ := p
    simp only [ReorderedMembers, List.forall₂_cons_left_iff, ih]
    constructor
    · rintro ⟨w, ns, hw, hns, rfl⟩
      exact ⟨(k, w), ns, ⟨rfl, hw⟩, hns, rfl⟩
    · rintro ⟨⟨-, w⟩, ns, ⟨rfl, hw⟩, hns, rfl⟩
      exact ⟨w, ns, hw, hns, rfl⟩

@[simp] theorem reordered_null : null.Reordered w ↔ w = null :=
  Iff.of_eq (by rw [Reordered] <;> nofun)

@[simp] theorem reordered_bool {b : Bool} : (bool b).Reordered w ↔ w = bool b :=
  Iff.of_eq (by rw [Reordered] <;> nofun)

@[simp] theorem reordered_number {m : Number} : (number m).Reordered w ↔ w = number m :=
  Iff.of_eq (by rw [Reordered] <;> nofun)

@[simp] theorem reordered_string : (string s).Reordered w ↔ w = string s :=
  Iff.of_eq (by rw [Reordered] <;> nofun)

@[simp] theorem reordered_null_right : v.Reordered null ↔ v = null := by
  cases v <;> simp [Reordered]

theorem reordered_refl (v : Json) : v.Reordered v := by
  induction v using nestedInduction with
  | null | bool | number | string => rw [Reordered] <;> nofun
  | array vs ih =>
    rw [Reordered]
    exact ⟨vs, reorderedItems_iff.mpr (List.forall₂_same.mpr ih), rfl⟩
  | object ms ih =>
    rw [Reordered]
    exact ⟨ms, ms, reorderedMembers_iff.mpr (List.forall₂_same.mpr fun p hp => ⟨rfl, ih p hp⟩),
      .refl _, rfl⟩

theorem reordered_array : (array vs).Reordered w ↔
    ∃ ws, List.Forall₂ Reordered vs ws ∧ w = array ws := by
  simp only [Reordered, reorderedItems_iff]

/-- What is said item by item of two lists can be said of them in another order. -/
theorem exists_perm_of_forall₂ {α β : Type} {R : α → β → Prop} {as : List α} {bs bs' : List β}
    (h : List.Forall₂ R as bs) (hperm : bs.Perm bs') :
    ∃ as', as.Perm as' ∧ List.Forall₂ R as' bs' := by
  have hcomp : Relation.Comp (List.Forall₂ R) List.Perm as bs' := ⟨bs, h, hperm⟩
  rwa [List.forall₂_comp_perm_eq_perm_comp_forall₂] at hcomp

theorem reordered_object : (object ms).Reordered w ↔
    ∃ ns ns', List.Forall₂ SameMember ms ns ∧ ns.Perm ns' ∧ w = object ns' := by
  simp only [Reordered, reorderedMembers_iff]

/-- The members are put in another order, and then their values are reordered. -/
theorem Reordered.exists_members (h : (object ms).Reordered w) :
    ∃ ms' ns, ms.Perm ms' ∧ List.Forall₂ SameMember ms' ns ∧ w = object ns := by
  obtain ⟨ns, ns', hsame, hperm, rfl⟩ := reordered_object.mp h
  obtain ⟨ms', hperm', hsame'⟩ := exists_perm_of_forall₂ hsame hperm
  exact ⟨ms', ns', hperm', hsame', rfl⟩

/-- Every item of a reordered list comes from one of the list. -/
theorem exists_of_forall₂ {α β : Type} {R : α → β → Prop} {as : List α} {bs : List β} {b : β}
    (h : List.Forall₂ R as bs) (hb : b ∈ bs) : ∃ a ∈ as, R a b := by
  induction h with
  | nil => cases hb
  | cons hab _ ih =>
    rcases List.mem_cons.mp hb with rfl | hb
    · exact ⟨_, List.mem_cons_self, hab⟩
    · obtain ⟨a, ha, hab⟩ := ih hb
      exact ⟨a, List.mem_cons_of_mem _ ha, hab⟩

/-! ## What the order does not change -/

theorem Reordered.textual (h : v.Reordered w) (hv : v.Textual n) : w.Textual n := by
  induction v using nestedInduction generalizing w n with
  | null => rw [reordered_null.mp h]; exact hv
  | bool b => rw [reordered_bool.mp h]; exact hv
  | number m => rw [reordered_number.mp h]; exact hv
  | string s => rw [reordered_string.mp h]; exact hv
  | array vs ih =>
    obtain ⟨ws, hws, rfl⟩ := reordered_array.mp h
    cases n with
    | zero => exact (not_textual_zero_array hv).elim
    | succ n =>
      refine textual_array.mpr fun w hw => ?_
      obtain ⟨v, hmem, hvw⟩ := exists_of_forall₂ hws hw
      exact ih v hmem hvw (textual_array.mp hv v hmem)
  | object ms ih =>
    obtain ⟨ms', ns, hperm, hns, rfl⟩ := h.exists_members
    cases n with
    | zero => exact (not_textual_zero_object hv).elim
    | succ n =>
      refine textual_object.mpr fun q hq => ?_
      obtain ⟨p, hmem, hpq⟩ := exists_of_forall₂ hns hq
      have hp := hperm.mem_iff.mpr hmem
      exact ih p hp hpq.2 (textual_object.mp hv p hp)

theorem values_of_forall₂ (h : List.Forall₂ (fun v w => (Draft.ofJson w).value = .ok v) vs ws) :
    Draft.values (Draft.ofItems ws) = .ok vs := by
  induction h with
  | nil => rfl
  | cons hv _ ih => rw [Draft.ofItems, Draft.values, hv, ih]; rfl

theorem memberValues_of_forall₂ (before : Dict Json) (h : List.Forall₂
    (fun p q => p.1 = q.1 ∧ (Draft.ofJson q.2).value = .ok p.2) ms ns) :
    Draft.memberValues (Draft.ofMembers ns) before =
      .ok (ms.foldl (fun d p => d.insert p.1 p.2) before) := by
  induction h generalizing before with
  | nil => rfl
  | @cons p q ms ns hpq _ ih =>
    obtain ⟨hkey, hvalue⟩ := hpq
    rw [List.foldl_cons, hkey, ← ih, Draft.ofMembers, Draft.memberValues, hvalue]
    rfl

/-- A proper value is made of its text with the members in any order. -/
theorem Reordered.value (h : v.Reordered w) (hv : v.Proper) : (Draft.ofJson w).value = .ok v := by
  induction v using nestedInduction generalizing w with
  | null => rw [reordered_null.mp h]; rfl
  | bool b => rw [reordered_bool.mp h]; rfl
  | number m => rw [reordered_number.mp h]; rfl
  | string s => rw [reordered_string.mp h]; rfl
  | array vs ih =>
    obtain ⟨ws, hws, rfl⟩ := reordered_array.mp h
    have hitems (v : Json) (hmem : v ∈ vs) (w : Json) (hvw : v.Reordered w) :=
      ih v hmem hvw (properItems_iff.mp hv v hmem)
    have hvalues := values_of_forall₂
      (((List.forall₂_and_left vs ws).mpr ⟨hitems, hws⟩).imp fun v w h => h.1 w h.2)
    rw [Draft.ofJson, Draft.value, hvalues]
    rfl
  | object ms ih =>
    obtain ⟨ms', ns, hperm, hns, rfl⟩ := h.exists_members
    have hmembers (p : String × Json) (hmem : p ∈ ms') (w : Json) (hpw : p.2.Reordered w) :=
      ih p (hperm.mem_iff.mpr hmem) hpw (properMembers_iff.mp hv.2 p (hperm.mem_iff.mpr hmem))
    have hvalues := memberValues_of_forall₂ []
      (((List.forall₂_and_left ms' ns).mpr ⟨hmembers, hns⟩).imp
        fun p q h => ⟨h.2.1, h.1 q.2 h.2.2⟩)
    have hdict : ms'.foldl (fun (d : Dict Json) p => d.insert p.1 p.2) [] = ms :=
      Dict.ofList_of_perm hv.1 hperm.symm
    rw [Draft.ofJson, Draft.value, hvalues, hdict]
    rfl

theorem value_ofJson (hv : v.Proper) : (Draft.ofJson v).value = .ok v := (reordered_refl v).value hv

/-- The values of members in any order, of which those of one key may be more than one. -/
theorem memberValues_ofMembers {before : Dict Json} (hms : ProperMembers ms) :
    Draft.memberValues (Draft.ofMembers ms) before =
      .ok (ms.foldl (fun d p => d.insert p.1 p.2) before) :=
  memberValues_of_forall₂ before <| List.forall₂_same.mpr fun p hp =>
    ⟨rfl, value_ofJson (properMembers_iff.mp hms p hp)⟩

/-! ## Members by their keys -/

/-- No two members have the same key. -/
def DistinctKeys (ms : List (String × Json)) : Prop := (ms.map Prod.fst).Nodup

theorem DistinctKeys.of_sublist (keys : List String) (h : (ms.map Prod.fst).Sublist keys)
    (hkeys : keys.Nodup) : DistinctKeys ms := hkeys.sublist h

theorem DistinctKeys.tail {p : String × Json} (h : DistinctKeys (p :: ms)) : DistinctKeys ms :=
  List.Pairwise.tail h

theorem DistinctKeys.perm (h : DistinctKeys ms) (hperm : ms.Perm ns) : DistinctKeys ns :=
  (hperm.map Prod.fst).nodup_iff.mp h

theorem DistinctKeys.of_forall₂ (h : DistinctKeys ms) (hns : List.Forall₂ SameMember ms ns) :
    DistinctKeys ns := by
  have hkeys : ms.map Prod.fst = ns.map Prod.fst := by
    induction hns with
    | nil => rfl
    | cons hpq _ ih => rw [List.map_cons, List.map_cons, hpq.1, ih h.tail]
  rwa [DistinctKeys, ← hkeys]

theorem DistinctKeys.ofList_perm (h : DistinctKeys ms) : (Dict.ofList ms).Perm ms := by
  have hkeys : (ms ++ []).Pairwise fun (p q : String × Json) => p.1 ≠ q.1 := by
    rw [List.append_nil]
    exact List.pairwise_map.mp h
  have hperm := Dict.perm_foldl_insert hkeys
  rwa [List.append_nil] at hperm

/-- The members of an object that was made of members with different keys, in another order. -/
theorem Reordered.exists_members_mkObject (h : (mkObject ms).Reordered w) (hms : DistinctKeys ms) :
    ∃ ms' ns, ms.Perm ms' ∧ List.Forall₂ SameMember ms' ns ∧ w = object ns := by
  obtain ⟨ms', ns, hperm, hns, rfl⟩ := h.exists_members
  exact ⟨ms', ns, hms.ofList_perm.symm.trans hperm, hns, rfl⟩

end AnalyzerClient.Json
