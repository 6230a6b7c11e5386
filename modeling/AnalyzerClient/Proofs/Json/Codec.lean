import AnalyzerClient.Proofs.Json.Record
import AnalyzerClient.Proofs.Json.RoundTrip

/-!
# Decoding what was encoded

A value is decoded again when its decoder reads it in every order of its members
(`Decoder.Reads`). Records are read field by field: `Record.Reads r members a` says that the fields
of `r` are among members with different keys and make `a`, and then the object of the members is
decoded (`Record.Reads.decode_mkObject`). What is decoded from a value is decoded from its text too
(`Decoder.ofText_spread`).
-/

namespace AnalyzerClient.Json

variable {α β : Type} {decode : Decoder α} {v w : Json} {vs : List Json} {a : α}
  {ms ns : List (String × Json)}
  {k key name : String}

/-! ## Decoders -/

namespace Decoder

/-- A value is decoded, in whatever order the members of its objects stand. -/
def Reads (decode : Decoder α) (v : Json) (a : α) : Prop :=
  ∀ w, v.Reordered w → decode (Draft.ofJson w) = .ok a

theorem reads_any (h : v.Proper) : Reads any v v := fun _ hw => hw.value h

theorem reads_string (s : String) : Reads string (.string s) s := by
  intro w hw
  rw [reordered_string.mp hw]
  rfl

theorem reads_bool (b : Bool) : Reads bool (.bool b) b := by
  intro w hw
  rw [reordered_bool.mp hw]
  rfl

theorem reads_nat32 {n : Nat} (h : n < Word.count32) : Reads nat32 (.ofNat n) n := by
  intro w hw
  rw [reordered_number.mp hw]
  have hrange : (0 : Int) ≤ n ∧ (n : Int) < Word.count32 :=
    ⟨Int.natCast_nonneg n, Int.ofNat_lt.mpr h⟩
  rw [nat32, natBelow, Draft.ofJson, intBetween, if_pos hrange]
  rfl

theorem reads_namedWith {content : Decoder Unit} {ofName? : String → Option α}
    (h : ofName? name = some a) : Reads (namedWith content ofName?) (.string name) a := by
  intro w hw
  rw [reordered_string.mp hw, Draft.ofJson, namedWith, h]

theorem reads_optional_null : Reads (optional decode) null none := by
  intro w hw
  rw [reordered_null.mp hw]
  rfl

/-- Nothing but null is read as none. -/
theorem optional_ofJson (hv : v ≠ null) (hw : v.Reordered w) :
    Decoder.optional decode (Draft.ofJson w) = (decode (Draft.ofJson w)).map some := by
  cases w with
  | null => exact absurd (reordered_null_right.mp hw) hv
  | _ => rfl

theorem Reads.optional (h : Reads decode v a) (hv : v ≠ null) :
    Reads (optional decode) v (some a) := by
  intro w hw
  rw [optional_ofJson hv hw, h w hw]
  rfl

theorem Reads.list {toJson : α → Json} {as : List α}
    (h : ∀ a ∈ as, Reads decode (toJson a) a) :
    Reads (list decode) (.array (as.map toJson)) as := by
  intro w hw
  obtain ⟨ws, hws, rfl⟩ := reordered_array.mp hw
  clear hw
  rw [List.forall₂_map_left_iff] at hws
  rw [Draft.ofJson, Decoder.list]
  induction hws with
  | nil => rfl
  | @cons a w as ws haw _ ih =>
    obtain ⟨ha, has⟩ := List.forall_mem_cons.mp h
    rw [Draft.ofItems, items, ha w haw]
    rw [show items decode _ = _ from ih has]
    rfl

theorem members_ofMembers {d before : Dict α} (h : List.Forall₂
    (fun p q => p.1 = q.1 ∧ decode (Draft.ofJson q.2) = .ok p.2) d ns) :
    members .ok decode (Draft.ofMembers ns) before =
      .ok (d.foldl (fun d p => d.insert p.1 p.2) before) := by
  induction h generalizing before with
  | nil => rfl
  | @cons p q d ns hpq _ ih =>
    obtain ⟨hkey, hvalue⟩ := hpq
    rw [List.foldl_cons, hkey, ← ih, Draft.ofMembers, members, hvalue]
    rfl

theorem Reads.dict {toJson : α → Json} {d : Dict α} (hd : d.Sorted)
    (h : ∀ p ∈ d, Reads decode (toJson p.2) p.2) :
    Reads (dict decode) (.object (d.mapValues toJson)) d := by
  intro w hw
  obtain ⟨ns, ns', hns, hperm, rfl⟩ := reordered_object.mp hw
  rw [Dict.mapValues, List.forall₂_map_left_iff] at hns
  have hread := ((List.forall₂_and_left d ns).mpr ⟨h, hns⟩).imp
    (S := fun p q => p.1 = q.1 ∧ decode (Draft.ofJson q.2) = .ok p.2)
    fun p q hpq => ⟨hpq.2.1, hpq.1 q.2 hpq.2.2⟩
  obtain ⟨d', hd', hread'⟩ := exists_perm_of_forall₂ hread hperm
  have hdict : d'.foldl (fun (d : Dict α) p => d.insert p.1 p.2) [] = d :=
    Dict.ofList_of_perm hd hd'.symm
  rw [Draft.ofJson, Decoder.dict, dictWith, members_ofMembers hread', hdict]

theorem reads_strings (texts : List String) : Reads (list string) (ofStrings texts) texts :=
  .list fun s _ => reads_string s

theorem reads_texts {d : Dict String} (hd : d.Sorted) : Reads (dict string) (ofDict d) d :=
  .dict hd fun p _ => reads_string p.2

end Decoder

/-! ## Members by their keys -/

theorem DistinctKeys.get?_eq_some_iff (h : DistinctKeys ms) :
    Dict.get? ms k = some v ↔ (k, v) ∈ ms := by
  refine ⟨Dict.mem_of_get?, fun hmem => ?_⟩
  induction ms with
  | nil => cases hmem
  | cons p ms ih =>
    obtain ⟨k', v'⟩ := p
    rw [Dict.get?_cons]
    rcases List.mem_cons.mp hmem with he | hlater
    · cases he
      rw [if_pos rfl]
    · have hne : k ≠ k' := by
        rintro rfl
        exact (List.nodup_cons.mp h).1 (List.mem_map.mpr ⟨_, hlater, rfl⟩)
      rw [if_neg hne, ih h.tail hlater]

theorem DistinctKeys.get?_of_perm (h : DistinctKeys ms) (hperm : ms.Perm ns) (k : String) :
    Dict.get? ns k = Dict.get? ms k := by
  refine Option.ext fun v => ?_
  rw [h.get?_eq_some_iff, (h.perm hperm).get?_eq_some_iff, hperm.mem_iff]

theorem get?_of_forall₂ (h : List.Forall₂ SameMember ms ns) (k : String) :
    Option.Rel Reordered (Dict.get? ms k) (Dict.get? ns k) := by
  induction h with
  | nil => exact .none
  | @cons p q ms ns hpq _ ih =>
    obtain ⟨k', v⟩ := p
    obtain ⟨k', w⟩ := q
    obtain ⟨rfl, hvalue⟩ := hpq
    rw [Dict.get?_cons, Dict.get?_cons]
    split
    · exact .some hvalue
    · exact ih

/-- The members of an object in another order: the keys differ, and each has the value that it had,
reordered. -/
structure Arranged (ms ns : List (String × Json)) : Prop where
  distinct : DistinctKeys ns
  get? : ∀ key, Option.Rel Reordered (Dict.get? ms key) (Dict.get? ns key)

theorem Reordered.exists_arranged (h : (mkObject ms).Reordered w) (hms : DistinctKeys ms) :
    ∃ ns, Arranged ms ns ∧ w = object ns := by
  obtain ⟨ms', ns, hperm, hns, rfl⟩ := h.exists_members_mkObject hms
  have hms' := hms.perm hperm
  refine ⟨ns, ⟨hms'.of_forall₂ hns, fun key => ?_⟩, rfl⟩
  rw [← hms.get?_of_perm hperm]
  exact get?_of_forall₂ hns key

theorem Arranged.exists_of_mem {p : String × Json} (h : Arranged ms ns) (hp : p ∈ ns) :
    ∃ v, Dict.get? ms p.1 = some v ∧ v.Reordered p.2 := by
  have hkey := h.get? p.1
  rw [h.distinct.get?_eq_some_iff.mpr hp] at hkey
  generalize Dict.get? ms p.1 = v at hkey
  cases hkey with
  | some hv => exact ⟨_, rfl, hv⟩

theorem Arranged.exists_get? (h : Arranged ms ns) (hv : Dict.get? ms key = some v) :
    ∃ w, v.Reordered w ∧ Dict.get? ns key = some w := by
  have hkey := h.get? key
  rw [hv] at hkey
  generalize Dict.get? ns key = w at hkey
  cases hkey with
  | some hw => exact ⟨_, hw, rfl⟩

theorem Arranged.mem_keys (h : Arranged ms ns) (hv : (Dict.get? ms key).isSome) :
    key ∈ ns.map Prod.fst := by
  obtain ⟨v, hv⟩ := Option.isSome_iff_exists.mp hv
  obtain ⟨w, -, hw⟩ := h.exists_get? hv
  exact List.mem_map_of_mem (Dict.mem_of_get? hw)

theorem memberDraft?_ofMembers (key : String) (ns : List (String × Json)) :
    Record.memberDraft? key (Draft.ofMembers ns) = (Dict.get? ns key).map Draft.ofJson := by
  induction ns with
  | nil => rfl
  | cons p ns ih =>
    obtain ⟨k, v⟩ := p
    have hcons : Record.memberDraft? key (Draft.ofMembers ((k, v) :: ns)) =
        if k = key then some (Draft.ofJson v)
        else Record.memberDraft? key (Draft.ofMembers ns) := by
      by_cases hk : k = key <;> simp [Draft.ofMembers, Record.memberDraft?, Except.toOption, hk]
    rw [hcons, Dict.get?_cons, ih]
    by_cases hk : k = key
    · rw [if_pos hk, if_pos hk.symm]
      rfl
    · rw [if_neg hk, if_neg (Ne.symm hk)]

/-! ## Records -/

/-- The drafts that are present are those of members, in whatever order these and the members of
their values stand. -/
def Shows (present : String → Option Draft) (ms : List (String × Json)) : Prop :=
  ∀ key, Option.Rel (fun v d => ∃ w, v.Reordered w ∧ d = Draft.ofJson w) (Dict.get? ms key)
    (present key)

theorem Arranged.shows (h : Arranged ms ns) :
    Shows (Record.memberDraft? · (Draft.ofMembers ns)) ms := by
  intro key
  have hkey := h.get? key
  simp only [memberDraft?_ofMembers]
  generalize Dict.get? ms key = v, Dict.get? ns key = w at hkey
  cases hkey with
  | none => exact .none
  | some hvw => exact .some ⟨_, hvw, rfl⟩

theorem Shows.eq_none {present : String → Option Draft} (h : Shows present ms)
    (hk : Dict.get? ms key = none) : present key = none := by
  have hkey := h key
  rw [hk] at hkey
  generalize present key = d at hkey
  cases hkey
  rfl

theorem Shows.exists_eq_some {present : String → Option Draft} (h : Shows present ms)
    (hk : Dict.get? ms key = some v) :
    ∃ w, v.Reordered w ∧ present key = some (Draft.ofJson w) := by
  have hkey := h key
  rw [hk] at hkey
  generalize present key = d at hkey
  cases hkey with
  | some hvw =>
    obtain ⟨w, hw, rfl⟩ := hvw
    exact ⟨w, hw, rfl⟩

namespace Record

variable {r : Record α} {fields : List Field} {other : Draft → Except Fault Unit}
  {seen : List String}

/-- A record is made of members: its fields pass their checks, those that must be present are
present, and they make a value. -/
structure Reads (r : Record α) (ms : List (String × Json)) (a : α) : Prop where
  check : ∀ f ∈ r.fields, ∀ v, Dict.get? ms f.name = some v → Decoder.Reads f.check v ()
  required : ∀ f ∈ r.fields, f.presence = .required → (Dict.get? ms f.name).isSome
  build : ∀ present, Shows present ms → r.build present = .ok a

theorem Reads.map (h : r.Reads ms a) (f : α → β) : (f <$> r).Reads ms (f a) where
  check := h.check
  required := h.required
  build present hp := by
    rw [map_build_eq_ok]
    exact ⟨a, h.build present hp, rfl⟩

theorem Reads.seq {f : Record (α → β)} {g : α → β} (hf : f.Reads ms g) (h : r.Reads ms a) :
    (f <*> r).Reads ms (g a) where
  check field hfield := by
    rcases List.mem_append.mp hfield with hfield | hfield
    · exact hf.check field hfield
    · exact h.check field hfield
  required field hfield := by
    rcases List.mem_append.mp hfield with hfield | hfield
    · exact hf.required field hfield
    · exact h.required field hfield
  build present hp := by
    rw [seq_build_eq_ok]
    exact ⟨g, a, hf.build present hp, h.build present hp, rfl⟩

/-- A field that is present. -/
theorem reads_of_present {decode : Decoder α} {presence : Presence}
    (hfields : r.fields = [⟨name, presence, fun d => (decode d).map fun _ => ()⟩])
    (hbuild : ∀ present d, present name = some d → r.build present = decode d)
    (hv : Dict.get? ms name = some v) (h : decode.Reads v a) : r.Reads ms a where
  check f hf v' hv' w hw := by
    rw [hfields] at hf
    obtain rfl := List.mem_singleton.mp hf
    obtain rfl := Option.some.inj (hv.symm.trans hv')
    exact map_eq_ok.mpr ⟨a, h w hw, rfl⟩
  required f hf _ := by
    rw [hfields] at hf
    obtain rfl := List.mem_singleton.mp hf
    rw [hv]
    rfl
  build present hp := by
    obtain ⟨w, hw, hpresent⟩ := hp.exists_eq_some hv
    rw [hbuild present _ hpresent, h w hw]

/-- A field that may be missing and is. -/
theorem reads_of_missing {presence : Presence} {check : Draft → Except Fault Unit}
    (hfields : r.fields = [⟨name, presence, check⟩]) (hpresence : presence ≠ .required)
    (hbuild : ∀ present : String → Option Draft, present name = none → r.build present = .ok a)
    (hv : Dict.get? ms name = none) : r.Reads ms a where
  check f hf v hv' := by
    rw [hfields] at hf
    obtain rfl := List.mem_singleton.mp hf
    exact absurd (hv.symm.trans hv') nofun
  required f hf hrequired := by
    rw [hfields] at hf
    obtain rfl := List.mem_singleton.mp hf
    exact absurd hrequired hpresence
  build present hp := hbuild present (hp.eq_none hv)

theorem reads_required (hv : Dict.get? ms name = some v) (h : decode.Reads v a) :
    (required name decode).Reads ms a :=
  reads_of_present rfl (fun present d hd => by simp only [required, hd]) hv h

theorem reads_defaulted {default : α} (hv : Dict.get? ms name = some v) (h : decode.Reads v a) :
    (defaulted name decode default).Reads ms a :=
  reads_of_present rfl (fun present d hd => by simp only [defaulted, hd]) hv h

theorem reads_optional {o : Option α} (hv : Dict.get? ms name = some v)
    (h : (Decoder.optional decode).Reads v o) : (optional name decode).Reads ms o :=
  reads_of_present rfl (fun present d hd => by simp only [optional, hd]) hv h

theorem reads_defaultedOptional_none (hv : Dict.get? ms name = none) :
    (defaultedOptional name decode).Reads ms none :=
  reads_of_missing rfl nofun (fun _ hnone => by simp only [defaultedOptional, defaulted, hnone]) hv

theorem reads_defaultedOptional_some (hv : Dict.get? ms name = some v) (h : decode.Reads v a)
    (hnull : v ≠ null) : (defaultedOptional name decode).Reads ms (some a) :=
  reads_defaulted hv (h.optional hnull)

section Skipped

variable {toJson : α → Json} {o : Option α} (hv : Dict.get? ms name = o.map toJson)
  (h : ∀ a ∈ o, decode.Reads (toJson a) a) (hnull : ∀ a, toJson a ≠ null)
include hv h hnull

/-- A field that is left out when it has no value. -/
theorem reads_optional_skipped : (optional name decode).Reads ms o := by
  cases o with
  | none => exact reads_of_missing rfl nofun (fun _ hnone => by simp only [optional, hnone]) hv
  | some a => exact reads_optional hv ((h a rfl).optional (hnull a))

theorem reads_defaultedOptional : (defaultedOptional name decode).Reads ms o := by
  cases o with
  | none => exact reads_defaultedOptional_none hv
  | some a => exact reads_defaultedOptional_some hv (h a rfl) (hnull a)

end Skipped

/-! ## Objects -/

theorem checkMembers_ofMembers (hns : DistinctKeys ns) (hseen : ∀ p ∈ ns, p.1 ∉ seen)
    (hcheck : ∀ f ∈ fields, ∀ p ∈ ns, p.1 = f.name → f.check (Draft.ofJson p.2) = .ok ())
    (hother : ∀ p ∈ ns, (∀ f ∈ fields, f.name ≠ p.1) → other (Draft.ofJson p.2) = .ok ())
    (hrequired : ∀ f ∈ fields, f.presence = .required →
      f.name ∈ seen ∨ f.name ∈ ns.map Prod.fst) :
    checkMembers fields other seen (Draft.ofMembers ns) = .ok () := by
  induction ns generalizing seen with
  | nil =>
    rw [Draft.ofMembers, checkMembers, if_pos]
    refine List.all_eq_true.mpr fun f hf => ?_
    by_cases hp : f.presence = .required
    · simpa [hp] using hrequired f hf hp
    · simp [hp]
  | cons p ns ih =>
    obtain ⟨k, v⟩ := p
    obtain ⟨hv, hother⟩ := List.forall_mem_cons.mp hother
    obtain ⟨hk, hseen⟩ := List.forall_mem_cons.mp hseen
    have hcheck' (f : Field) (hf : f ∈ fields) := (List.forall_mem_cons.mp (hcheck f hf)).2
    rw [Draft.ofMembers, checkMembers]
    refine bind_eq_ok.mpr ⟨k, rfl, ?_⟩
    split
    · next hfind =>
      have hne (f : Field) (hf : f ∈ fields) : f.name ≠ k := by
        simpa using List.find?_eq_none.mp hfind f hf
      refine bind_eq_ok.mpr ⟨(), hv hne, ih hns.tail hseen hcheck' hother fun f hf hp => ?_⟩
      simpa [hne f hf] using hrequired f hf hp
    · next f hfind =>
      have hf := List.mem_of_find?_eq_some hfind
      have hname : f.name = k := by simpa using List.find?_some hfind
      have hnew : k ∉ ns.map Prod.fst := (List.nodup_cons.mp hns).1
      rw [if_neg (by simpa using hk)]
      refine bind_eq_ok.mpr ⟨(), hcheck f hf (k, v) List.mem_cons_self hname.symm,
        ih hns.tail (fun p hp => ?_) hcheck' hother fun f hf hp => ?_⟩
      · have hne : p.1 ≠ k := fun he => hnew (he ▸ List.mem_map_of_mem hp)
        simpa [hne] using hseen p hp
      · rcases hrequired f hf hp with hmem | hmem
        · exact .inl (List.mem_cons_of_mem _ hmem)
        · rw [List.map_cons, List.mem_cons] at hmem
          exact hmem.imp_left fun he => List.mem_cons.mpr (.inl he)

/-- The object of the members that make a record is decoded. -/
theorem Reads.decodeObject_mkObject (h : r.Reads ms a) (hms : DistinctKeys ms)
    (hother : ∀ p ∈ ms, (∀ f ∈ r.fields, f.name ≠ p.1) → Decoder.Reads other p.2 ()) :
    Decoder.Reads (r.decodeObject other) (mkObject ms) a := by
  intro w hw
  obtain ⟨ns, hns, rfl⟩ := hw.exists_arranged hms
  have hcheck : checkMembers r.fields other [] (Draft.ofMembers ns) = .ok () := by
    refine checkMembers_ofMembers hns.distinct nofun (fun f hf p hp hname => ?_)
      (fun p hp hne => ?_) fun f hf hp => .inr (hns.mem_keys (h.required f hf hp))
    · obtain ⟨v, hv, hvp⟩ := hns.exists_of_mem hp
      exact h.check f hf v (hname ▸ hv) p.2 hvp
    · obtain ⟨v, hv, hvp⟩ := hns.exists_of_mem hp
      exact hother (p.1, v) (Dict.mem_of_get? hv) hne p.2 hvp
  exact bind_eq_ok.mpr ⟨(), hcheck, h.build _ hns.shows⟩

end Record

/-! ## Members that are no fields -/

theorem skipItems_ofItems (h : ∀ v ∈ vs, (Draft.ofJson v).skip = .ok ()) :
    Draft.skipItems (Draft.ofItems vs) = .ok () := by
  induction vs with
  | nil => rfl
  | cons v vs ih =>
    obtain ⟨hv, hvs⟩ := List.forall_mem_cons.mp h
    rw [Draft.ofItems, Draft.skipItems, hv]
    exact ih hvs

theorem skipMembers_ofMembers (h : ∀ p ∈ ms, (Draft.ofJson p.2).skip = .ok ()) :
    Draft.skipMembers (Draft.ofMembers ms) = .ok () := by
  induction ms with
  | nil => rfl
  | cons p ms ih =>
    obtain ⟨hp, hms⟩ := List.forall_mem_cons.mp h
    rw [Draft.ofMembers, Draft.skipMembers, hp]
    exact ih hms

theorem skip_ofJson (v : Json) : (Draft.ofJson v).skip = .ok () := by
  induction v using nestedInduction with
  | null | bool | number | string => rfl
  | array vs ih => exact skipItems_ofItems ih
  | object ms ih => exact skipMembers_ofMembers ih

theorem exists_values_ofItems (h : ∀ v ∈ vs, ∃ w, (Draft.ofJson v).value = .ok w) :
    ∃ ws, Draft.values (Draft.ofItems vs) = .ok ws := by
  induction vs with
  | nil => exact ⟨[], rfl⟩
  | cons v vs ih =>
    obtain ⟨⟨w, hw⟩, hvs⟩ := List.forall_mem_cons.mp h
    obtain ⟨ws, hws⟩ := ih hvs
    exact ⟨w :: ws, by rw [Draft.ofItems, Draft.values, hw, hws]; rfl⟩

theorem exists_memberValues_ofMembers (h : ∀ p ∈ ms, ∃ w, (Draft.ofJson p.2).value = .ok w)
    (before : Dict Json) : ∃ d, Draft.memberValues (Draft.ofMembers ms) before = .ok d := by
  induction ms generalizing before with
  | nil => exact ⟨before, rfl⟩
  | cons p ms ih =>
    obtain ⟨⟨w, hw⟩, hms⟩ := List.forall_mem_cons.mp h
    obtain ⟨d, hd⟩ := ih hms (before.insert p.1 w)
    refine ⟨d, ?_⟩
    rw [Draft.ofMembers, Draft.memberValues, hw]
    exact hd

/-- The draft of a value has no fault. -/
theorem exists_value_ofJson (v : Json) : ∃ w, (Draft.ofJson v).value = .ok w := by
  induction v using nestedInduction with
  | null => exact ⟨.null, rfl⟩
  | bool b => exact ⟨.bool b, rfl⟩
  | number n => exact ⟨.number n, rfl⟩
  | string s => exact ⟨.string s, rfl⟩
  | array vs ih =>
    obtain ⟨ws, hws⟩ := exists_values_ofItems ih
    exact ⟨.array ws, by rw [Draft.ofJson, Draft.value, hws]; rfl⟩
  | object ms ih =>
    obtain ⟨d, hd⟩ := exists_memberValues_ofMembers ih []
    exact ⟨.object d, by rw [Draft.ofJson, Draft.value, hd]; rfl⟩

theorem Record.Reads.decode_mkObject {r : Record α} (h : r.Reads ms a) (hms : DistinctKeys ms) :
    Decoder.Reads r.decode (mkObject ms) a := by
  intro w hw
  obtain ⟨ns, -, rfl⟩ := hw.exists_arranged hms
  exact h.decodeObject_mkObject hms (fun p _ _ v _ => skip_ofJson v) _ hw

/-! ## Texts -/

/-- A value is decoded from its text like the value itself. -/
theorem Decoder.ofText_spread (decode : Decoder α) (g : Spacing) (hv : v.Textual Draft.maxDepth) :
    Decoder.ofText decode (String.ofList (spreadChars g 0 v)) = decode (Draft.ofJson v) := by
  obtain ⟨c, cs, htext, hc, -⟩ := spreadChars_head g 0 hv.integral
  have hread : Draft.readValue .characters (3 * (spreadChars g 0 v).length + 3) Draft.maxDepth
      (spreadChars g 0 v) = (Draft.ofJson v, some []) := by
    refine readValue_spread g 0 _ _ v hv.ranged hv.integral hv.depth_le (by omega) nofun ?_
    rw [htext, skipGap_of_head hc, List.append_nil]
  have hdraft : Draft.ofText .characters (spreadChars g 0 v) = (Draft.ofJson v, none) := by
    rw [Draft.ofText, hread]
    rfl
  rw [Decoder.ofText, String.toList_ofList, hdraft]
  cases hd : decode (Draft.ofJson v) with
  | error f => simp [bind, Except.bind, hd]
  | ok a => simp [bind, Except.bind, hd]

end AnalyzerClient.Json
