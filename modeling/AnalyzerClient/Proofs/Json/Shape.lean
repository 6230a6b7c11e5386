import AnalyzerClient.Json.Value
import AnalyzerClient.Proofs.Dict

/-!
# The shape of values

How deep a value is nested, whether its integers have at most 64 bits (`Json.Ranged`), whether it
could come from a text (`Json.Proper`), and whether all of its numbers are integers
(`Json.Integral`). What these say of a list of items or members is said by one lemma for each
(`depthMembers_le_iff`, `rangedMembers_iff`, `properMembers_iff`, `integralMembers_iff`).
-/

namespace AnalyzerClient.Json

mutual

/-- How many arrays and objects are nested. -/
def depth : Json → Nat
  | .array items => depthItems items + 1
  | .object members => depthMembers members + 1
  | _ => 0

/-- The depth of the deepest item. -/
def depthItems : List Json → Nat
  | [] => 0
  | v :: vs => max v.depth (depthItems vs)

/-- The depth of the deepest member. -/
def depthMembers : List (String × Json) → Nat
  | [] => 0
  | (_, v) :: ms => max v.depth (depthMembers ms)

end

mutual

/-- Every integer has at most 64 bits. -/
def Ranged : Json → Prop
  | .number n => n.InRange
  | .array items => RangedItems items
  | .object members => RangedMembers members
  | _ => True

/-- Every integer of the items has at most 64 bits. -/
def RangedItems : List Json → Prop
  | [] => True
  | v :: vs => v.Ranged ∧ RangedItems vs

/-- Every integer of the members has at most 64 bits. -/
def RangedMembers : List (String × Json) → Prop
  | [] => True
  | (_, v) :: ms => v.Ranged ∧ RangedMembers ms

end

mutual

/-- The keys of every object increase, and every integer has at most 64 bits. -/
def Proper : Json → Prop
  | .number n => n.InRange
  | .array items => ProperItems items
  | .object members => Dict.Sorted members ∧ ProperMembers members
  | _ => True

/-- All items are proper. -/
def ProperItems : List Json → Prop
  | [] => True
  | v :: vs => v.Proper ∧ ProperItems vs

/-- The values of all members are proper. -/
def ProperMembers : List (String × Json) → Prop
  | [] => True
  | (_, v) :: ms => v.Proper ∧ ProperMembers ms

end

/-- Whether a number is an integer. -/
def Number.isInt : Number → Bool
  | .int _ => true
  | .float _ => false

mutual

/-- All numbers are integers. -/
def Integral : Json → Prop
  | .number n => n.isInt = true
  | .array items => IntegralItems items
  | .object members => IntegralMembers members
  | _ => True

/-- All numbers of the items are integers. -/
def IntegralItems : List Json → Prop
  | [] => True
  | v :: vs => v.Integral ∧ IntegralItems vs

/-- All numbers of the members are integers. -/
def IntegralMembers : List (String × Json) → Prop
  | [] => True
  | (_, v) :: ms => v.Integral ∧ IntegralMembers ms

end

variable {items : List Json} {members : List (String × Json)} {v : Json} {n : Nat}

theorem depthItems_le_iff : depthItems items ≤ n ↔ ∀ v ∈ items, v.depth ≤ n := by
  induction items with
  | nil => simp [depthItems]
  | cons v items ih => rw [depthItems, Nat.max_le, ih, List.forall_mem_cons]

theorem depthMembers_le_iff : depthMembers members ≤ n ↔ ∀ p ∈ members, p.2.depth ≤ n := by
  induction members with
  | nil => simp [depthMembers]
  | cons p members ih =>
    rw [depthMembers, Nat.max_le, ih, List.forall_mem_cons]

theorem rangedItems_iff : RangedItems items ↔ ∀ v ∈ items, v.Ranged := by
  induction items with
  | nil => simp [RangedItems]
  | cons v items ih => rw [RangedItems, ih, List.forall_mem_cons]

theorem rangedMembers_iff : RangedMembers members ↔ ∀ p ∈ members, p.2.Ranged := by
  induction members with
  | nil => simp [RangedMembers]
  | cons p members ih => rw [RangedMembers, ih, List.forall_mem_cons]

theorem properItems_iff : ProperItems items ↔ ∀ v ∈ items, v.Proper := by
  induction items with
  | nil => simp [ProperItems]
  | cons v items ih => rw [ProperItems, ih, List.forall_mem_cons]

theorem properMembers_iff : ProperMembers members ↔ ∀ p ∈ members, p.2.Proper := by
  induction members with
  | nil => simp [ProperMembers]
  | cons p members ih => rw [ProperMembers, ih, List.forall_mem_cons]

theorem integralItems_iff : IntegralItems items ↔ ∀ v ∈ items, v.Integral := by
  induction items with
  | nil => simp [IntegralItems]
  | cons v items ih => rw [IntegralItems, ih, List.forall_mem_cons]

theorem integralMembers_iff : IntegralMembers members ↔ ∀ p ∈ members, p.2.Integral := by
  induction members with
  | nil => simp [IntegralMembers]
  | cons p members ih => rw [IntegralMembers, ih, List.forall_mem_cons]

mutual

theorem Proper.ranged : {v : Json} → v.Proper → v.Ranged
  | .null, _ | .bool _, _ | .string _, _ => trivial
  | .number _, h => h
  | .array _, h => ProperItems.ranged h
  | .object _, h => ProperMembers.ranged h.2

theorem ProperItems.ranged : {vs : List Json} → ProperItems vs → RangedItems vs
  | [], _ => trivial
  | _ :: _, h => ⟨h.1.ranged, ProperItems.ranged h.2⟩

theorem ProperMembers.ranged : {ms : List (String × Json)} → ProperMembers ms → RangedMembers ms
  | [], _ => trivial
  | _ :: _, h => ⟨h.1.ranged, ProperMembers.ranged h.2⟩

end

theorem proper_mkObject (h : ∀ p ∈ members, p.2.Proper) : (mkObject members).Proper :=
  ⟨.ofList members, properMembers_iff.mpr fun p hp => h p (Dict.mem_ofList hp)⟩

theorem integral_mkObject (h : ∀ p ∈ members, p.2.Integral) : (mkObject members).Integral :=
  integralMembers_iff.mpr fun p hp => h p (Dict.mem_ofList hp)

/-! ## Values that a text can hold -/

/-- All that the text of a value needs to be read again, where `n` arrays and objects may be nested.
-/
structure Textual (n : Nat) (v : Json) : Prop where
  ranged : v.Ranged
  integral : v.Integral
  depth_le : v.depth ≤ n

theorem Textual.mono {m : Nat} (h : v.Textual m) (hn : m ≤ n) : v.Textual n :=
  ⟨h.ranged, h.integral, Nat.le_trans h.depth_le hn⟩

theorem textual_null : null.Textual n := ⟨trivial, trivial, Nat.zero_le n⟩

theorem textual_bool (b : Bool) : (bool b).Textual n := ⟨trivial, trivial, Nat.zero_le n⟩

theorem textual_string (s : String) : (string s).Textual n := ⟨trivial, trivial, Nat.zero_le n⟩

theorem textual_ofNat32 {m : Nat} (h : m < Word.count32) : (ofNat m).Textual n := by
  refine ⟨⟨?_, ?_⟩, rfl, Nat.zero_le n⟩
  · exact Int.le_trans (by decide) (Int.natCast_nonneg m)
  · exact Int.lt_trans (Int.ofNat_lt.mpr h) (by decide)

theorem not_textual_zero_array : ¬ (array items).Textual 0 := fun h => nomatch h.depth_le

theorem not_textual_zero_object : ¬ (object members).Textual 0 := fun h => nomatch h.depth_le

theorem textual_array : (array items).Textual (n + 1) ↔ ∀ v ∈ items, v.Textual n := by
  have hdepth : (array items).depth ≤ n + 1 ↔ ∀ v ∈ items, v.depth ≤ n :=
    Nat.succ_le_succ_iff.trans depthItems_le_iff
  constructor
  · rintro ⟨hr, hi, hd⟩ v hv
    exact ⟨rangedItems_iff.mp hr v hv, integralItems_iff.mp hi v hv, hdepth.mp hd v hv⟩
  · intro h
    exact ⟨rangedItems_iff.mpr fun v hv => (h v hv).ranged,
      integralItems_iff.mpr fun v hv => (h v hv).integral, hdepth.mpr fun v hv => (h v hv).depth_le⟩

theorem textual_object : (object members).Textual (n + 1) ↔ ∀ p ∈ members, p.2.Textual n := by
  have hdepth : (object members).depth ≤ n + 1 ↔ ∀ p ∈ members, p.2.depth ≤ n :=
    Nat.succ_le_succ_iff.trans depthMembers_le_iff
  constructor
  · rintro ⟨hr, hi, hd⟩ p hp
    exact ⟨rangedMembers_iff.mp hr p hp, integralMembers_iff.mp hi p hp, hdepth.mp hd p hp⟩
  · intro h
    exact ⟨rangedMembers_iff.mpr fun p hp => (h p hp).ranged,
      integralMembers_iff.mpr fun p hp => (h p hp).integral,
      hdepth.mpr fun p hp => (h p hp).depth_le⟩

theorem textual_mkObject (h : ∀ p ∈ members, p.2.Textual n) : (mkObject members).Textual (n + 1) :=
  textual_object.mpr fun p hp => h p (Dict.mem_ofList hp)

theorem textual_ofStrings (texts : List String) : (ofStrings texts).Textual (n + 1) :=
  textual_array.mpr <| List.forall_mem_map.mpr fun s _ => textual_string s

theorem textual_ofDict (d : Dict String) : (ofDict d).Textual (n + 1) :=
  textual_object.mpr <| List.forall_mem_map.mpr fun p _ => textual_string p.2

end AnalyzerClient.Json
