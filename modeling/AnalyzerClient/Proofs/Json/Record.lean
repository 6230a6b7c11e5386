import AnalyzerClient.Json.Decoder

/-!
# What is decoded is well-formed

Decoding a record goes through the whole draft, so that a draft with a fault in it is refused even
where the record asks for nothing: members that are no fields are skipped, and those that are fields
are decoded. A decoder with that property is called thorough, and records of thorough decoders are
thorough (`Record.Thorough.decode`).
-/

namespace AnalyzerClient.Json

variable {α β : Type} {r : Record α} {d : Draft} {ds : List Draft}
  {ms : List (Except Fault String × Draft)} {present : String → Option Draft}

theorem bind_eq_ok {x : Except Fault α} {f : α → Except Fault β} {b : β} :
    x >>= f = .ok b ↔ ∃ a, x = .ok a ∧ f a = .ok b := by
  cases x <;> simp [bind, Except.bind]

theorem map_eq_ok {x : Except Fault α} {f : α → β} {b : β} :
    x.map f = .ok b ↔ ∃ a, x = .ok a ∧ f a = b := by
  cases x <;> simp [Except.map]

/-! ## Decoders -/

namespace Decoder

theorem string_eq_ok {s : String} : string d = .ok s ↔ d = .string s := by
  cases d <;> simp [string]

theorem optional_string_eq_some {s : String} :
    optional string d = .ok (some s) ↔ d = .string s := by
  unfold optional
  split
  · simp
  · rw [map_eq_ok]
    simp [string_eq_ok]

/-- What is decoded could have been skipped: it has no fault. -/
def Thorough (decode : Decoder α) : Prop := ∀ d a, decode d = .ok a → d.skip = .ok ()

theorem thorough_string : Thorough string := by
  intro d s h
  rw [string_eq_ok.mp h]
  rfl

theorem Thorough.optional {decode : Decoder α} (h : Thorough decode) :
    Thorough (optional decode) := by
  intro d a hd
  unfold Decoder.optional at hd
  split at hd
  · rfl
  · obtain ⟨a, ha, -⟩ := map_eq_ok.mp hd
    exact h d a ha

theorem Thorough.items {decode : Decoder α} (h : Thorough decode) {as : List α}
    (hds : items decode ds = .ok as) : Draft.skipItems ds = .ok () := by
  induction ds generalizing as with
  | nil => rfl
  | cons d ds ih =>
    obtain ⟨a, ha, hds⟩ := bind_eq_ok.mp hds
    obtain ⟨rest, hrest, -⟩ := bind_eq_ok.mp hds
    rw [Draft.skipItems, h d a ha]
    exact ih hrest

theorem Thorough.list {decode : Decoder α} (h : Thorough decode) : Thorough (list decode) := by
  intro d as hd
  cases d with
  | array ds => exact h.items hd
  | _ => cases hd

end Decoder

/-! ## Records -/

namespace Record

theorem map_build_eq_ok {f : α → β} {b : β} :
    (f <$> r).build present = .ok b ↔ ∃ a, r.build present = .ok a ∧ f a = b := map_eq_ok

theorem seq_build_eq_ok {f : Record (α → β)} {b : β} : (f <*> r).build present = .ok b ↔
    ∃ g a, f.build present = .ok g ∧ r.build present = .ok a ∧ g a = b := by
  have hbuild : (f <*> r).build present = f.build present >>= fun g =>
    r.build present >>= fun a => .ok (g a) := rfl
  simp [hbuild, bind_eq_ok]

theorem required_build_eq_ok {name : String} {decode : Decoder α} {a : α} :
    (required name decode).build present = .ok a ↔
      ∃ d, present name = some d ∧ decode d = .ok a := by
  simp only [required]
  cases present name <;> simp

theorem defaulted_build_eq_ok {name : String} {decode : Decoder α} {default a : α} :
    (defaulted name decode default).build present = .ok a ↔
      (∃ d, present name = some d ∧ decode d = .ok a) ∨ present name = none ∧ default = a := by
  simp only [defaulted]
  cases present name <;> simp

theorem present_of_required_string {name s : String}
    (h : (required name Decoder.string).build present = .ok s) :
    present name = some (.string s) := by
  obtain ⟨d, hd, hs⟩ := required_build_eq_ok.mp h
  rw [hd, Decoder.string_eq_ok.mp hs]

/-- A record is written as an object or as an array. -/
theorem decode_eq_ok {a : α} (h : r.decode d = .ok a) :
    (∃ ms, d = .object ms ∧ checkMembers r.fields Draft.skip [] ms = .ok () ∧
      r.build (memberDraft? · ms) = .ok a) ∨
    ∃ ds, d = .array ds ∧ checkItems r.fields ds = .ok () ∧
      r.build (itemDraft? · r.fields ds) = .ok a := by
  cases d with
  | object ms =>
    obtain ⟨⟨⟩, hcheck, hbuild⟩ := bind_eq_ok.mp h
    exact .inl ⟨ms, rfl, hcheck, hbuild⟩
  | array ds =>
    obtain ⟨⟨⟩, hcheck, hbuild⟩ := bind_eq_ok.mp h
    exact .inr ⟨ds, rfl, hcheck, hbuild⟩
  | _ => cases h

/-- The item of an array that stands for a field. -/
theorem itemDraft?_eq {fields : List Field} {i : Nat} {name : String}
    (hi : fields.findIdx? (·.name == name) = some i) :
    itemDraft? name fields ds = ds[i]? := by
  induction fields generalizing ds i with
  | nil => cases hi
  | cons f fields ih =>
    cases ds with
    | nil => rfl
    | cons d ds =>
      have hcons : itemDraft? name (f :: fields) (d :: ds) =
          if f.name == name then some d else itemDraft? name fields ds := by
        by_cases hf : f.name = name <;> simp [itemDraft?, hf]
      rw [hcons]
      rw [List.findIdx?_cons] at hi
      split at hi
      · next hf =>
        cases hi
        rw [if_pos hf]
        rfl
      · next hf =>
        obtain ⟨j, hj, rfl⟩ := Option.map_eq_some_iff.mp hi
        rw [if_neg hf, ih hj]
        rfl

/-- No array has more items than the record has fields. -/
theorem length_le_of_checkItems {fields : List Field} (h : checkItems fields ds = .ok ()) :
    ds.length ≤ fields.length := by
  induction fields generalizing ds with
  | nil =>
    cases ds with
    | nil => exact Nat.le_refl _
    | cons d ds => cases d <;> cases h
  | cons f fields ih =>
    cases ds with
    | nil => exact Nat.zero_le _
    | cons d ds =>
      obtain ⟨-, -, hds⟩ := bind_eq_ok.mp h
      exact Nat.succ_le_succ (ih hds)

/-- What passes the check of a field has no fault. -/
def Thorough (r : Record α) : Prop := ∀ f ∈ r.fields, ∀ d, f.check d = .ok () → d.skip = .ok ()

theorem Thorough.map (h : r.Thorough) (f : α → β) : (f <$> r).Thorough := h

theorem Thorough.seq {f : Record (α → β)} (hf : f.Thorough) (hr : r.Thorough) :
    (f <*> r).Thorough := by
  intro field hfield
  rcases List.mem_append.mp hfield with hfield | hfield
  · exact hf field hfield
  · exact hr field hfield

theorem thorough_required {decode : Decoder α} (h : decode.Thorough) (name : String) :
    (required name decode).Thorough := by
  intro f hf d hd
  obtain rfl := List.mem_singleton.mp hf
  obtain ⟨a, ha, -⟩ := map_eq_ok.mp hd
  exact h d a ha

theorem thorough_defaulted {decode : Decoder α} (h : decode.Thorough) (name : String)
    (default : α) : (defaulted name decode default).Thorough := by
  intro f hf d hd
  obtain rfl := List.mem_singleton.mp hf
  obtain ⟨a, ha, -⟩ := map_eq_ok.mp hd
  exact h d a ha

section Checks

variable {fields : List Field}
  (hfields : ∀ f ∈ fields, ∀ d, f.check d = .ok () → d.skip = .ok ())
include hfields

theorem skipMembers_of_checkMembers {seen : List String}
    (h : checkMembers fields Draft.skip seen ms = .ok ()) : Draft.skipMembers ms = .ok () := by
  induction ms generalizing seen with
  | nil => rfl
  | cons m ms ih =>
    obtain ⟨key, d⟩ := m
    obtain ⟨k, -, hmember⟩ := bind_eq_ok.mp h
    rw [Draft.skipMembers]
    split at hmember
    · obtain ⟨⟨⟩, hd, hms⟩ := bind_eq_ok.mp hmember
      rw [hd]
      exact ih hms
    · next f hf =>
      split at hmember
      · cases hmember
      · obtain ⟨⟨⟩, hd, hms⟩ := bind_eq_ok.mp hmember
        rw [hfields f (List.mem_of_find?_eq_some hf) d hd]
        exact ih hms

theorem skipItems_of_checkItems (h : checkItems fields ds = .ok ()) :
    Draft.skipItems ds = .ok () := by
  induction fields generalizing ds with
  | nil =>
    obtain rfl := List.eq_nil_of_length_eq_zero (Nat.le_zero.mp (length_le_of_checkItems h))
    rfl
  | cons f fields ih =>
    cases ds with
    | nil => rfl
    | cons d ds =>
      obtain ⟨⟨⟩, hd, hds⟩ := bind_eq_ok.mp h
      rw [Draft.skipItems, hfields f List.mem_cons_self d hd]
      exact ih (fun f hf => hfields f (List.mem_cons_of_mem _ hf)) hds

end Checks

theorem Thorough.decode (h : r.Thorough) : Decoder.Thorough r.decode := by
  intro d a hd
  rcases decode_eq_ok hd with ⟨ms, rfl, hcheck, -⟩ | ⟨ds, rfl, hcheck, -⟩
  · exact skipMembers_of_checkMembers h hcheck
  · exact skipItems_of_checkItems h hcheck

end Record

end AnalyzerClient.Json
