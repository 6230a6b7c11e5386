import AnalyzerClient.Json.Draft
import AnalyzerClient.Proofs.Json.Numeral
import AnalyzerClient.Proofs.Json.Shape

/-!
# What is read is proper

A value that is read from a text is proper and is not nested too deep (`proper_of_ofChars`,
`depth_of_ofChars`): a reader at some depth gives a draft whose value, if it has one, is within that
depth.
-/

namespace AnalyzerClient.Json

/-- A dictionary of proper values within a depth. -/
structure SoundMembers (n : Nat) (members : Dict Json) : Prop where
  sorted : members.Sorted
  proper : ProperMembers members
  depth : depthMembers members ≤ n

theorem SoundMembers.nil (n : Nat) : SoundMembers n [] := ⟨.nil, trivial, Nat.zero_le n⟩

theorem SoundMembers.mono {m n : Nat} {members : Dict Json} (h : SoundMembers m members)
    (hle : m ≤ n) : SoundMembers n members := ⟨h.sorted, h.proper, Nat.le_trans h.depth hle⟩

theorem SoundMembers.insert {members : Dict Json} {key : String} {v : Json} {n : Nat}
    (h : SoundMembers n members) (hp : v.Proper) (hd : v.depth ≤ n) :
    SoundMembers n (members.insert key v) := by
  refine ⟨h.sorted.insert, properMembers_iff.mpr ?_, depthMembers_le_iff.mpr ?_⟩
  · intro p hmem
    rcases Dict.mem_insert hmem with rfl | hmem
    · exact hp
    · exact properMembers_iff.mp h.proper p hmem
  · intro p hmem
    rcases Dict.mem_insert hmem with rfl | hmem
    · exact hd
    · exact depthMembers_le_iff.mp h.depth p hmem

namespace Draft

variable {d : Draft} {ds : List Draft} {n : Nat}
  {ms : List (Except Fault String × Draft)}

/-- The value of a draft, if there is one, is proper and within a depth. -/
def Within (n : Nat) (d : Draft) : Prop := ∀ v, d.value = .ok v → v.Proper ∧ v.depth ≤ n

/-- The values of items, if there are any, are proper and within a depth. -/
def WithinItems (n : Nat) (ds : List Draft) : Prop :=
  ∀ vs, values ds = .ok vs → ProperItems vs ∧ depthItems vs ≤ n

/-- Members that are added to sound ones give sound ones. -/
def WithinMembers (n : Nat) (ms : List (Except Fault String × Draft)) : Prop :=
  ∀ before, SoundMembers n before → ∀ members, memberValues ms before = .ok members →
    SoundMembers n members

/-! ## Drafts made of drafts -/

theorem within_of_error {f : Fault} (h : d.value = .error f) : d.Within n := by
  intro v hv
  rw [h] at hv
  cases hv

theorem withinItems_nil : WithinItems n [] := by
  intro vs hvs
  cases hvs
  exact ⟨trivial, Nat.zero_le n⟩

theorem WithinItems.cons (hd : d.Within n) (hds : WithinItems n ds) : WithinItems n (d :: ds) := by
  intro vs hvs
  rw [values] at hvs
  cases hv : d.value with
  | error f => rw [hv] at hvs; cases hvs
  | ok v =>
    cases hrest : values ds with
    | error f => rw [hv, hrest] at hvs; cases hvs
    | ok rest =>
      rw [hv, hrest] at hvs
      cases hvs
      obtain ⟨hp, hle⟩ := hd v hv
      obtain ⟨hps, hles⟩ := hds rest hrest
      exact ⟨⟨hp, hps⟩, Nat.max_le.mpr ⟨hle, hles⟩⟩

theorem Within.array (h : WithinItems n ds) : (Draft.array ds).Within (n + 1) := by
  intro v hv
  rw [value] at hv
  cases hvs : values ds with
  | error f => rw [hvs] at hv; cases hv
  | ok vs =>
    rw [hvs] at hv
    cases hv
    exact ⟨(h vs hvs).1, Nat.succ_le_succ (h vs hvs).2⟩

theorem withinMembers_nil : WithinMembers n [] := by
  intro before h members hm
  cases hm
  exact h

theorem WithinMembers.cons {key : Except Fault String} (hd : d.Within n)
    (hms : WithinMembers n ms) : WithinMembers n ((key, d) :: ms) := by
  intro before h members hm
  cases key with
  | error f => rw [memberValues] at hm; cases hm
  | ok k =>
    cases hv : d.value with
    | error f => rw [memberValues] at hm; simp [bind, Except.bind, hv] at hm
    | ok v =>
      rw [memberValues] at hm
      simp only [bind, Except.bind, hv] at hm
      exact hms _ (h.insert (hd v hv).1 (hd v hv).2) members hm

theorem Within.object (h : WithinMembers n ms) : (Draft.object ms).Within (n + 1) := by
  intro v hv
  rw [value] at hv
  cases hm : memberValues ms [] with
  | error f => rw [hm] at hv; cases hv
  | ok members =>
    rw [hm] at hv
    cases hv
    have hsound := h [] (.nil n) members hm
    exact ⟨⟨hsound.sorted, hsound.proper⟩, Nat.succ_le_succ hsound.depth⟩

/-! ## Scalars -/

theorem within_ofNumber (cs : List Char) : (ofNumber cs).1.Within n := by
  unfold ofNumber
  split
  · exact within_of_error rfl
  · split
    · next hnumber =>
      intro v hv
      cases hv
      exact ⟨NumberText.inRange_of_value? hnumber, Nat.zero_le n⟩
    · exact within_of_error rfl

theorem within_ofString (u : Units) (cs : List Char) : (ofString u cs).1.Within n := by
  unfold ofString
  dsimp only
  split
  · intro v hv
    cases hv
    exact ⟨trivial, Nat.zero_le n⟩
  · exact within_of_error rfl
  · exact within_of_error rfl

theorem within_ofWord {word cs : List Char} (hd : d.Within n) : (ofWord word d cs).1.Within n := by
  unfold ofWord
  split
  · exact within_of_error rfl
  · exact hd

theorem within_ofScalar (u : Units) (cs : List Char) : (ofScalar u cs).1.Within n := by
  unfold ofScalar
  split
  · exact within_of_error rfl
  · exact within_ofString u _
  · exact within_ofWord fun v hv => by cases hv; exact ⟨trivial, Nat.zero_le n⟩
  · exact within_ofWord fun v hv => by cases hv; exact ⟨trivial, Nat.zero_le n⟩
  · exact within_ofWord fun v hv => by cases hv; exact ⟨trivial, Nat.zero_le n⟩
  · split
    · exact within_ofNumber _
    · exact within_of_error rfl

theorem within_ofDeep (u : Units) (inObject : Bool) (cs : List Char) :
    (ofDeep u inObject cs).1.Within n := by
  unfold ofDeep
  cases skipNested u (2 * cs.length + 2) [inObject] .first cs <;> exact within_of_error rfl

/-! ## Readers -/

theorem withinItems_fault {f : Fault} (h : d.value = .error f) : WithinItems n [d] :=
  withinItems_nil.cons (within_of_error h)

theorem withinMembers_fault {key : Except Fault String} {f : Fault} (h : d.value = .error f) :
    WithinMembers n [(key, d)] := withinMembers_nil.cons (within_of_error h)

mutual

theorem within_readValue (u : Units) :
    (fuel d : Nat) → (cs : List Char) → (readValue u fuel d cs).1.Within d
  | 0, _, _ => by rw [readValue]; exact within_of_error rfl
  | fuel + 1, d, cs => by
    rw [readValue]
    split
    · split
      · exact within_ofDeep u false _
      · exact .array (within_readItems u fuel _ _)
    · split
      · exact within_ofDeep u true _
      · exact .object (within_readMembers u fuel _ _)
    · exact within_ofScalar u _

theorem within_readItems (u : Units) :
    (fuel d : Nat) → (cs : List Char) → WithinItems d (readItems u fuel d cs).1
  | 0, _, _ => by rw [readItems]; exact withinItems_fault rfl
  | fuel + 1, d, cs => by
    rw [readItems]
    split
    · exact withinItems_nil
    · exact within_readItem u fuel d _

theorem within_readItem (u : Units) :
    (fuel d : Nat) → (cs : List Char) → WithinItems d (readItem u fuel d cs).1
  | 0, _, _ => by rw [readItem]; exact withinItems_fault rfl
  | fuel + 1, d, cs => by
    have hvalue := within_readValue u fuel d cs
    rw [readItem]
    split
    · next hread => rw [hread] at hvalue; exact withinItems_nil.cons hvalue
    · next hread => rw [hread] at hvalue; exact (within_readMoreItems u fuel d _).cons hvalue

theorem within_readMoreItems (u : Units) :
    (fuel d : Nat) → (cs : List Char) → WithinItems d (readMoreItems u fuel d cs).1
  | 0, _, _ => by rw [readMoreItems]; exact withinItems_fault rfl
  | fuel + 1, d, cs => by
    rw [readMoreItems]
    split
    · exact withinItems_nil
    · exact within_readItem u fuel d _
    · exact withinItems_fault rfl
    · exact withinItems_fault rfl

theorem within_readMembers (u : Units) :
    (fuel d : Nat) → (cs : List Char) → WithinMembers d (readMembers u fuel d cs).1
  | 0, _, _ => by rw [readMembers]; exact withinMembers_fault rfl
  | fuel + 1, d, cs => by
    rw [readMembers]
    split
    · exact withinMembers_nil
    · exact within_readMember u fuel d _

theorem within_readMember (u : Units) :
    (fuel d : Nat) → (cs : List Char) → WithinMembers d (readMember u fuel d cs).1
  | 0, _, _ => by rw [readMember]; exact withinMembers_fault rfl
  | fuel + 1, d, cs => by
    rw [readMember]
    split
    · dsimp only
      split
      · exact withinMembers_fault rfl
      · split
        · next rest _ =>
          have hvalue := within_readValue u fuel d rest
          split
          · next hread => rw [hread] at hvalue; exact withinMembers_nil.cons hvalue
          · next hread =>
            rw [hread] at hvalue; exact (within_readMoreMembers u fuel d _).cons hvalue
        · exact withinMembers_fault rfl
        · exact withinMembers_fault rfl
    · exact withinMembers_fault rfl
    · exact withinMembers_fault rfl

theorem within_readMoreMembers (u : Units) :
    (fuel d : Nat) → (cs : List Char) → WithinMembers d (readMoreMembers u fuel d cs).1
  | 0, _, _ => by rw [readMoreMembers]; exact withinMembers_fault rfl
  | fuel + 1, d, cs => by
    rw [readMoreMembers]
    split
    · exact withinMembers_nil
    · exact within_readMember u fuel d _
    · exact withinMembers_fault rfl
    · exact withinMembers_fault rfl

end

theorem within_ofText (u : Units) (cs : List Char) : (ofText u cs).1.Within maxDepth := by
  have hvalue := within_readValue u (3 * cs.length + 3) maxDepth cs
  unfold ofText
  split
  · next hread => rw [hread] at hvalue; exact hvalue
  · next hread =>
    rw [hread] at hvalue
    split <;> exact hvalue

end Draft

variable {cs : List Char} {v : Json}

theorem value_of_ofChars (h : ofChars cs = .ok v) :
    (Draft.ofText .characters cs).1.value = .ok v := by
  rw [ofChars, ofUnits] at h
  simp only [bind, Except.bind] at h
  split at h
  · cases h
  · next w hw =>
    split at h
    · cases h
    · cases h; exact hw

theorem proper_of_ofChars (h : ofChars cs = .ok v) : v.Proper :=
  (Draft.within_ofText .characters cs v (value_of_ofChars h)).1

theorem depth_of_ofChars (h : ofChars cs = .ok v) : v.depth ≤ Draft.maxDepth :=
  (Draft.within_ofText .characters cs v (value_of_ofChars h)).2

theorem soundMembers_of_ofChars {members : Dict Json} (h : ofChars cs = .ok (.object members)) :
    SoundMembers (Draft.maxDepth - 1) members :=
  ⟨(proper_of_ofChars h).1, (proper_of_ofChars h).2, Nat.le_sub_one_of_lt (depth_of_ofChars h)⟩

end AnalyzerClient.Json
