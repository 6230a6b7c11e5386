import AnalyzerClient.Proofs.Json.Codec
import AnalyzerClient.Proofs.Settings.FailedWrite

/-!
# Schemas that are decoded again

A schema is written with all its fields, so that no default and a default of null are written alike
and both are read as none (`Schema.reads_decode`). A store with the decoded schema in place of the
schema validates and accepts the same values for ever, since nothing but the default is lost
(`Store.Bared`), and it has the same values but for the one that was lost
(`Schema.register_decoded`).
-/

namespace AnalyzerClient.Settings

open Json (Decoder Draft DistinctKeys Record)

/-! ## The wire form -/

theorem ValueType.ofName?_name (type : ValueType) : ofName? type.name = some type := by
  cases type <;> rfl

namespace Schema

variable {s : Schema} {v w : Json}

/-- The schema without a default of null. -/
def withoutNull (s : Schema) : Schema := { s with default := s.default.filter (!·.isNull) }

theorem withoutNull_eq_self_iff : s.withoutNull = s ↔ s.default ≠ some .null := by
  obtain ⟨type, default, description, choices, nullable⟩ := s
  cases default with
  | none => simp [withoutNull]
  | some v => cases v <;> simp [withoutNull, Json.isNull, Option.filter]

theorem default_withoutNull (h : s.default ≠ some .null) : s.withoutNull.default = s.default := by
  rw [withoutNull_eq_self_iff.mpr h]

@[simp] theorem validate_withoutNull (s : Schema) (v : Json) :
    s.withoutNull.validate v = s.validate v := rfl

/-- The members of a schema. -/
def members (s : Schema) : List (String × Json) := [
  ("type", .string s.type.name),
  ("default", s.default.getD .null),
  ("description", .string s.description),
  ("enum", (s.choices.map Json.ofStrings).getD .null),
  ("nullable", .bool s.nullable)]

theorem distinctKeys_members (s : Schema) : DistinctKeys s.members :=
  .of_sublist ["type", "default", "description", "enum", "nullable"] (.refl _) (by decide)

theorem reads_default (h : ∀ v ∈ s.default, v.Proper) :
    Decoder.Reads (Decoder.optional Decoder.any) (s.default.getD .null) s.withoutNull.default := by
  by_cases hnull : s.default = some .null
  · rw [withoutNull, hnull]
    exact Decoder.reads_optional_null
  · rw [default_withoutNull hnull]
    cases hd : s.default with
    | none => exact Decoder.reads_optional_null
    | some v =>
      exact (Decoder.reads_any (h v hd)).optional fun he => hnull (hd.trans (congrArg some he))

theorem reads_choices (s : Schema) : Decoder.Reads
    (Decoder.optional (Decoder.list Decoder.string)) ((s.choices.map Json.ofStrings).getD .null)
    s.choices := by
  cases s.choices with
  | none => exact Decoder.reads_optional_null
  | some texts => exact (Decoder.reads_strings texts).optional nofun

/-- A schema is decoded without a default of null. -/
theorem reads_decode (h : ∀ v ∈ s.default, v.Proper) :
    Decoder.Reads decode s.toJson s.withoutNull := by
  have htype : Decoder.Reads (Decoder.named ValueType.ofName?) (.string s.type.name) s.type :=
    Decoder.reads_namedWith (ValueType.ofName?_name s.type)
  have hrecord : record.Reads s.members s.withoutNull :=
    (((((Record.reads_required rfl htype).map Schema.mk).seq
      (Record.reads_optional rfl (reads_default h))).seq
      (Record.reads_defaulted rfl (Decoder.reads_string _))).seq
      (Record.reads_optional rfl s.reads_choices)).seq
      (Record.reads_defaulted rfl (Decoder.reads_bool _))
  exact hrecord.decode_mkObject s.distinctKeys_members

theorem textual_toJson {n : Nat} (h : ∀ v ∈ s.default, v.Textual (n + 1)) :
    s.toJson.Textual (n + 2) := by
  refine Json.textual_mkObject ?_
  simp only [List.forall_mem_cons]
  refine ⟨Json.textual_string _, ?_, Json.textual_string _, ?_, Json.textual_bool _, nofun⟩
  · cases hd : s.default with
    | none => exact Json.textual_null
    | some v => exact h v hd
  · cases s.choices with
    | none => exact Json.textual_null
    | some texts => exact Json.textual_ofStrings texts

end Schema

/-! ## Stores with a schema in place of another -/

namespace Store

variable {s s' : Store} {bare : String → Prop} {key k : String} {value v : Json} {p : Priority}

/-- The second store is the first, except that the schemas of some keys have no default of null. -/
structure Bared (bare : String → Prop) (s s' : Store) : Prop where
  layers : s'.layers = s.layers
  kept : ∀ k, ¬ bare k → s'.schemas.get? k = s.schemas.get? k
  bared : ∀ k, bare k → s'.schemas.get? k = (s.schemas.get? k).map Schema.withoutNull

namespace Bared

theorem layer? (H : Bared bare s s') (p : Priority) : s'.layer? p = s.layer? p := by
  rw [Store.layer?, Store.layer?, H.layers]

theorem validate (H : Bared bare s s') (key : String) (value : Json) :
    s'.validate key value = s.validate key value := by
  rw [Store.validate, Store.validate]
  by_cases hk : bare key
  · rw [H.bared key hk]
    cases s.schemas.get? key with
    | none => rfl
    | some schema => simp only [Option.map_some, Schema.validate_withoutNull]
  · rw [H.kept key hk]

theorem verdict (H : Bared bare s s') (key : String) (value : Json) (p : Priority) :
    s'.verdict key value p = s.verdict key value p := by
  rw [verdict_eq, verdict_eq, H.validate, H.layer?]

theorem of_schemas (H : Bared bare s s') {t t' : Store} (hlayers : t'.layers = t.layers)
    (ht : t.schemas = s.schemas) (ht' : t'.schemas = s'.schemas) : Bared bare t t' :=
  ⟨hlayers, by rw [ht, ht']; exact H.kept, by rw [ht, ht']; exact H.bared⟩

theorem addLayer (H : Bared bare s s') (layer : Layer) :
    Bared bare (s.addLayer layer) (s'.addLayer layer) :=
  H.of_schemas (by rw [Store.addLayer, Store.addLayer, H.layers]) rfl rfl

theorem ensureLayer (H : Bared bare s s') (p : Priority) :
    Bared bare (s.ensureLayer p) (s'.ensureLayer p) := by
  unfold Store.ensureLayer
  rw [H.layers]
  split
  · exact H
  · exact H.addLayer _

theorem attempt (H : Bared bare s s') (key : String) (value : Json) (p : Priority) :
    Bared bare (s.attempt key value p) (s'.attempt key value p) := by
  have haccepts : s'.accepts key value p = s.accepts key value p := by
    rw [accepts, accepts, H.validate, H.layer?]
  rw [attempt_eq, attempt_eq, haccepts]
  split
  · exact H.of_schemas (by rw [put, put, H.layers]) rfl rfl
  · exact H

end Bared

end Store

/-- A change leaves the schema of a key alone. -/
def Change.Keeps (c : Change) (key : String) : Prop := ∀ schema, c ≠ .register key schema

namespace Store

variable {s s' : Store} {bare bare' : String → Prop} {key k : String} {schema : Schema}
  {c : Change} {later : List Change}

theorem get?_register (s : Store) (key k : String) (schema : Schema) :
    (s.register key schema).schemas.get? k = if k = key then some schema else s.schemas.get? k :=
  Dict.get?_insert s.schemas key k schema

/-- The store after changes, the first one first. -/
def changes (s : Store) (later : List Change) : Store := later.foldl change s

namespace Bared

theorem congr (H : Bared bare s s') (h : ∀ k, bare' k ↔ bare k) : Bared bare' s s' :=
  ⟨H.layers, fun k hk => H.kept k (mt (h k).mpr hk), fun k hk => H.bared k ((h k).mp hk)⟩

theorem of_register (s : Store) (key : String) (schema : Schema) :
    Bared (· = key) (s.register key schema) (s.register key schema.withoutNull) where
  layers := rfl
  kept k hk := by rw [get?_register, get?_register, if_neg hk, if_neg hk]
  bared k hk := by rw [get?_register, get?_register, if_pos hk, if_pos hk]; rfl

theorem register (H : Bared bare s s') (key : String) (schema : Schema) :
    Bared (fun k => bare k ∧ k ≠ key) (s.register key schema) (s'.register key schema) where
  layers := H.layers
  kept k hk := by
    rw [get?_register, get?_register]
    by_cases he : k = key
    · rw [if_pos he, if_pos he]
    · rw [if_neg he, if_neg he, H.kept k fun hbare => hk ⟨hbare, he⟩]
  bared k hk := by
    rw [get?_register, get?_register, if_neg hk.2, if_neg hk.2, H.bared k hk.1]

/-- A change takes a key off those whose schemas differ only when it registers the key. -/
theorem change (H : Bared bare s s') (c : Change) :
    Bared (fun k => bare k ∧ c.Keeps k) (s.change c) (s'.change c) := by
  cases c with
  | register key schema =>
    refine (H.register key schema).congr fun k => and_congr_right fun _ => ?_
    constructor
    · rintro h rfl
      exact h schema rfl
    · rintro h _ ⟨⟩
      exact h rfl
  | addLayer layer hsorted =>
    exact (H.addLayer layer).congr fun k => and_iff_left fun _ => by rintro ⟨⟩
  | set key value p =>
    exact (H.attempt key value p).congr fun k => and_iff_left fun _ => by rintro ⟨⟩
  | write files key value p path =>
    rw [Store.change, Store.change, write_store, write_store]
    exact ((H.ensureLayer p).attempt key value p).congr fun k => and_iff_left fun _ => by
      rintro ⟨⟩

theorem changes (H : Bared bare s s') (later : List Change) :
    Bared (fun k => bare k ∧ ∀ c ∈ later, c.Keeps k) (s.changes later) (s'.changes later) := by
  induction later generalizing s s' bare with
  | nil => exact H.congr fun k => and_iff_left nofun
  | cons c later ih =>
    refine (ih (H.change c)).congr fun k => ?_
    rw [List.forall_mem_cons, and_assoc]

end Bared

theorem Ordered.change (h : s.Ordered) (c : Change) : (s.change c).Ordered := by
  cases c with
  | register key schema => exact h.register key schema
  | addLayer layer hsorted => exact h.addLayer hsorted
  | set key value p => exact h.attempt key value p
  | write files key value p path =>
    rw [Store.change, write_store]
    exact (h.ensureLayer p).attempt key value p

theorem Ordered.changes (h : s.Ordered) (later : List Change) : (s.changes later).Ordered := by
  induction later generalizing s with
  | nil => exact h
  | cons c later ih => exact ih (h.change c)

theorem schemas_change_of_keeps (s : Store) (hc : c.Keeps key) :
    (s.change c).schemas.get? key = s.schemas.get? key := by
  cases c with
  | register k schema =>
    have hne : key ≠ k := by
      rintro rfl
      exact hc schema rfl
    rw [Store.change, get?_register, if_neg hne]
  | addLayer layer hsorted => rfl
  | set k value p => rw [Store.change, schemas_attempt]
  | write files k value p path =>
    rw [Store.change, write_store, schemas_attempt, schemas_ensureLayer]

theorem schemas_changes_of_keeps (s : Store) (hlater : ∀ c ∈ later, c.Keeps key) :
    (s.changes later).schemas.get? key = s.schemas.get? key := by
  induction later generalizing s with
  | nil => rfl
  | cons c later ih =>
    obtain ⟨hc, hlater⟩ := List.forall_mem_cons.mp hlater
    exact (ih (s.change c) hlater).trans (schemas_change_of_keeps s hc)

/-! ## The value that is lost -/

/-- A default of null that was registered for a key is the value of the key after changes: none of
them registers the key again, and no layer has the key. -/
def NullCounts (schema : Schema) (key : String) (later : List Change) (s : Store) : Prop :=
  schema.default = some .null ∧ (∀ c ∈ later, c.Keeps key) ∧ ∀ l ∈ s.layers, l.get? key = none

theorem findSome?_layers_eq_none_iff {ls : List Layer} :
    ls.reverse.findSome? (·.get? key) = none ↔ ∀ l ∈ ls, l.get? key = none := by
  simp [List.findSome?_eq_none_iff]

theorem get?_of_nullCounts
    (h : NullCounts schema key later ((s.register key schema).changes later)) :
    ((s.register key schema).changes later).get? key = some .null ∧
      ((s.register key schema.withoutNull).changes later).get? key = none := by
  obtain ⟨hnull, hlater, hlayers⟩ := h
  have hsearch := findSome?_layers_eq_none_iff.mpr hlayers
  constructor
  · rw [Store.get?, hsearch, schemas_changes_of_keeps _ hlater, get?_register, if_pos rfl]
    exact hnull
  · rw [Store.get?, ((Bared.of_register s key schema).changes later).layers, hsearch,
      schemas_changes_of_keeps _ hlater, get?_register, if_pos rfl, Schema.withoutNull]
    simp [hnull, Json.isNull]

theorem get?_of_not_nullCounts
    (h : ¬ (k = key ∧ NullCounts schema key later ((s.register key schema).changes later))) :
    ((s.register key schema.withoutNull).changes later).get? k =
      ((s.register key schema).changes later).get? k := by
  have H := (Bared.of_register s key schema).changes later
  rw [Store.get?, Store.get?, H.layers]
  split
  · rfl
  · next hsearch =>
    by_cases hk : k = key ∧ ∀ c ∈ later, c.Keeps k
    · rw [H.bared k hk]
      obtain ⟨rfl, hlater⟩ := hk
      rw [schemas_changes_of_keeps _ hlater, get?_register, if_pos rfl]
      exact Schema.default_withoutNull fun hnull =>
        h ⟨rfl, hnull, hlater, findSome?_layers_eq_none_iff.mp hsearch⟩
    · rw [H.kept k hk]

end Store

/-- A schema is decoded from its value and from its text, whatever the order of the members, and it
is the same unless its default is null, which is lost. Registered in its place, it changes no
verdict on a value and no value but that of its key while the lost default counts. -/
theorem Schema.register_decoded {schema : Schema} {w : Json}
    (hdefault : ∀ v ∈ schema.default, v.Proper) (hw : schema.toJson.Reordered w) :
    ∃ schema', decode (Draft.ofJson w) = .ok schema' ∧
      ((∀ v ∈ schema.default, v.Textual (Draft.maxDepth - 1)) → ∀ g,
        Decoder.ofText decode (String.ofList (Json.spreadChars g 0 w)) = .ok schema') ∧
      (schema' = schema ↔ schema.default ≠ some .null) ∧
      ∀ (s : Store) (key : String) (later : List Change), s.Ordered →
        let t := (s.register key schema).changes later
        let t' := (s.register key schema').changes later
        (∀ k v, t'.validate k v = t.validate k v) ∧
        (∀ k v p, t'.verdict k v p = t.verdict k v p) ∧
        (Store.NullCounts schema key later t → t.get? key = some .null ∧ t'.get? key = none ∧
          t.all.get? key = some .null ∧ t'.all.get? key = none) ∧
        ∀ k, ¬ (k = key ∧ Store.NullCounts schema key later t) →
          t'.get? k = t.get? k ∧ t'.all.get? k = t.all.get? k := by
  refine ⟨schema.withoutNull, reads_decode hdefault w hw, fun htext g => ?_,
    withoutNull_eq_self_iff, fun s key later hs => ?_⟩
  · rw [Decoder.ofText_spread decode g (hw.textual (textual_toJson htext))]
    exact reads_decode hdefault w hw
  · have H := (Store.Bared.of_register s key schema).changes later
    have hall := ((hs.register key schema).changes later).get?_all
    have hall' := ((hs.register key schema.withoutNull).changes later).get?_all
    refine ⟨H.validate, H.verdict, fun hnull => ?_, fun k hk => ?_⟩
    · obtain ⟨hget, hget'⟩ := Store.get?_of_nullCounts hnull
      exact ⟨hget, hget', (hall key).trans hget, (hall' key).trans hget'⟩
    · have hget := Store.get?_of_not_nullCounts hk
      exact ⟨hget, by rw [hall, hall', hget]⟩

/-- The schema of the server's path has a default of null, which is lost. -/
theorem Schema.register_decoded_serverPath :
    let schema : Schema := ⟨.string, some .null, "Path to a custom binary", none, true⟩
    (∀ v ∈ schema.default, v.Proper) ∧ schema.toJson.Reordered schema.toJson ∧
      Store.empty.Ordered ∧ ∃ schema', decode (Draft.ofJson schema.toJson) = .ok schema' ∧
        schema' ≠ schema ∧
        (Store.empty.register Key.serverPath schema).get? Key.serverPath = some .null ∧
        (Store.empty.register Key.serverPath schema').get? Key.serverPath = none := by
  intro schema
  have hproper : ∀ v ∈ schema.default, v.Proper := by
    intro v hv
    obtain rfl := Option.some.inj hv
    trivial
  have hempty : Store.empty.Ordered := ⟨.nil, .nil, nofun⟩
  have hw := Json.reordered_refl schema.toJson
  obtain ⟨schema', hdecode, -, hsame, hanswers⟩ := register_decoded hproper hw
  obtain ⟨-, -, hlost, -⟩ := hanswers .empty Key.serverPath [] hempty
  obtain ⟨hget, hget', -⟩ := hlost ⟨rfl, nofun, nofun⟩
  exact ⟨hproper, hw, hempty, schema', hdecode, fun he => hsame.mp he rfl, hget, hget'⟩

end AnalyzerClient.Settings
