import AnalyzerClient.Proofs.Settings.History

/-!
# Whether valid settings are honoured

A value is checked by the schema of its key when it is set, and decoded into a field of the
configuration when it is used. `Schema.Admits` says which values a schema lets through, one case for
each type, and `Honours` what the configuration makes of them. The two notions agree on every key
but one: the schema of the server's variables admits every object, and of an object with a member
that is no text the configuration keeps nothing.
-/

namespace AnalyzerClient.Settings

/-! ## What a schema admits -/

/-- The values that pass a schema. -/
inductive Schema.Admits (s : Schema) : Json → Prop
  | null : s.nullable = true → s.Admits .null
  | text {t} : s.type = .string → s.allows t = true → s.Admits (.string t)
  | truth {b} : s.type = .boolean → s.Admits (.bool b)
  | object {members} : s.type = .object → s.Admits (.object members)

namespace Schema

variable {s : Schema} {v : Json}

theorem admits_of_validate (h : (s.validate v).isOk = true) : s.Admits v := by
  obtain ⟨type, initial, description, choices, nullable⟩ := s
  cases v with
  | null =>
    cases nullable with
    | true => exact .null rfl
    | false => cases h
  | bool b =>
    cases type with
    | boolean => exact .truth rfl
    | string | object => cases h
  | string t =>
    cases type with
    | string =>
      simp only [validate, Json.isNull, Bool.false_eq_true, if_false] at h
      split at h
      · next hallowed => exact .text rfl hallowed
      · cases h
    | boolean | object => cases h
  | object members =>
    cases type with
    | object => exact .object rfl
    | string | boolean => cases h
  | number | array => cases type <;> cases h

theorem Admits.text_of_type (h : s.Admits v) (htype : s.type = .string)
    (hnull : s.nullable = false) : ∃ t, v = .string t ∧ s.allows t = true := by
  cases h with
  | null hn => rw [hnull] at hn; cases hn
  | text _ hallowed => exact ⟨_, rfl, hallowed⟩
  | truth ht => rw [htype] at ht; cases ht
  | object ht => rw [htype] at ht; cases ht

end Schema

/-! ## The known keys -/

/-- The known keys are different, and the default of each passes its own check. -/
theorem knownSchemas_get? {key : String} {schema : Schema} (h : (key, schema) ∈ knownSchemas) :
    (Dict.ofList knownSchemas).get? key = some schema ∧
      ∃ v, schema.default = some v ∧ schema.Admits v := by
  suffices ∀ p ∈ knownSchemas, (Dict.ofList knownSchemas).get? p.1 = some p.2 ∧
      ∃ v, p.2.default = some v ∧ (p.2.validate v).isOk = true by
    obtain ⟨hget, v, hv, hvalid⟩ := this _ h
    exact ⟨hget, v, hv, Schema.admits_of_validate hvalid⟩
  intro p hp
  simp only [knownSchemas, List.mem_cons, List.not_mem_nil, or_false] at hp
  rcases hp with rfl | rfl | rfl | rfl | rfl | rfl | rfl <;> exact ⟨rfl, _, rfl, rfl⟩

/-! ## Calls -/

/-- Whether a change is a call that sets or writes a value. -/
def Change.isCall : Change → Bool
  | .set .. | .write .. => true
  | .register .. | .addLayer .. => false

namespace History

variable {h : History} {key : String} {schema : Schema} {p : Priority} {v : Json}

theorem schemaOf?_of_calls (hcalls : ∀ c ∈ h, c.isCall = true) (key : String) :
    schemaOf? key h = (Dict.ofList knownSchemas).get? key := by
  induction h with
  | nil => rfl
  | cons c h ih =>
    have hlater := ih fun c hc => hcalls c (List.mem_cons_of_mem _ hc)
    cases c with
    | set key value p => exact hlater
    | write files key value p path => exact hlater
    | register | addLayer => cases hcalls _ List.mem_cons_self

theorem admits_iff (hschema : schemaOf? key h = some schema) :
    h.admits key v = true ↔ (schema.validate v).isOk = true := by
  rw [admits, hschema]

/-- Whatever is held was let through by the schema. -/
theorem admits_of_held? (hcalls : ∀ c ∈ h, c.isCall = true)
    (hschema : (Dict.ofList knownSchemas).get? key = some schema) (hheld : h.held? p key = some v) :
    schema.Admits v := by
  induction h with
  | nil => cases hheld
  | cons c h ih =>
    have htail : ∀ c ∈ h, c.isCall = true := fun c hc => hcalls c (List.mem_cons_of_mem _ hc)
    have hnow : schemaOf? key h = some schema := (schemaOf?_of_calls htail key).trans hschema
    cases c with
    | set k value q =>
      rw [held?] at hheld
      split at hheld
      · next hnew =>
        obtain ⟨-, rfl, haccepts⟩ := hnew
        cases hheld
        exact Schema.admits_of_validate ((admits_iff hnow).mp (Bool.and_eq_true_iff.mp haccepts).1)
      · exact ih htail hheld
    | write files k value q path =>
      rw [held?] at hheld
      split at hheld
      · next hnew =>
        obtain ⟨-, rfl, hadmits⟩ := hnew
        cases hheld
        exact Schema.admits_of_validate ((admits_iff hnow).mp hadmits)
      · exact ih htail hheld
    | register | addLayer => cases hcalls _ List.mem_cons_self

/-- After calls only, every known key has a value that its schema admits. -/
theorem get?_known (hcalls : ∀ c ∈ h, c.isCall = true) (hkey : (key, schema) ∈ knownSchemas) :
    ∃ v, h.store.get? key = some v ∧ schema.Admits v := by
  obtain ⟨hschema, initial, hdefault, hinitial⟩ := knownSchemas_get? hkey
  rw [h.agrees.get?_eq, value?]
  cases hheld : Priority.ascending.reverse.findSome? (h.held? · key) with
  | some v =>
    obtain ⟨p, -, hp⟩ := List.exists_of_findSome?_eq_some hheld
    exact ⟨v, rfl, admits_of_held? hcalls hschema hp⟩
  | none =>
    refine ⟨initial, ?_, hinitial⟩
    rw [Option.none_or, schemaOf?_of_calls hcalls, hschema]
    exact hdefault

/-- A key of texts that may not be null has a text. -/
theorem get?_text (hcalls : ∀ c ∈ h, c.isCall = true) (hkey : (key, schema) ∈ knownSchemas)
    (htype : schema.type = .string) (hnull : schema.nullable = false) :
    ∃ t, h.store.get? key = some (.string t) ∧ schema.allows t = true := by
  obtain ⟨v, hv, hadmits⟩ := get?_known hcalls hkey
  obtain ⟨t, rfl, hallowed⟩ := hadmits.text_of_type htype hnull
  exact ⟨t, hv, hallowed⟩

end History

/-! ## Decoding -/

theorem Store.getAs?_of_get? {α : Type} {s : Store} {decode : Json.Decoder α} {key : String}
    {v : Json} (h : s.get? key = some v) : s.getAs? decode key = decode.ofJson? v := by
  rw [getAs?, h]
  rfl

theorem TraceLevel.ofName?_of_choice {t : String} (h : t ∈ ["off", "messages", "verbose"]) :
    ∃ level, ofName? t = some level ∧ level.name = t := by
  simp only [List.mem_cons, List.not_mem_nil, or_false] at h
  rcases h with rfl | rfl | rfl
  · exact ⟨.off, rfl, rfl⟩
  · exact ⟨.messages, rfl, rfl⟩
  · exact ⟨.verbose, rfl, rfl⟩

open Json (Decoder Draft) in
/-- The first member that is no text ends the decoding. -/
theorem members_string (members : List (String × Json)) (before : Dict String) :
    (∃ texts, members = Dict.mapValues Json.string texts ∧
      Decoder.members .ok Decoder.string (Draft.ofMembers members) before =
        .ok (texts.foldl (fun d (k, t) => d.insert k t) before)) ∨
    ((∃ m ∈ members, m.2.string? = none) ∧
      ∃ f, Decoder.members .ok Decoder.string (Draft.ofMembers members) before = .error f) := by
  induction members generalizing before with
  | nil => exact .inl ⟨[], rfl, rfl⟩
  | cons m members ih =>
    obtain ⟨k, v⟩ := m
    rw [Draft.ofMembers]
    cases v with
    | string t =>
      rcases ih (before.insert k t) with ⟨texts, rfl, hdecode⟩ | ⟨⟨m, hm, hnone⟩, f, hf⟩
      · exact .inl ⟨(k, t) :: texts, rfl, hdecode⟩
      · exact .inr ⟨⟨m, List.mem_cons_of_mem _ hm, hnone⟩, f, hf⟩
    | null | bool | number | array | object =>
      exact .inr ⟨⟨_, List.mem_cons_self, rfl⟩, _, rfl⟩

theorem Store.getAs?_texts {s : Store} {key : String} {members : List (String × Json)}
    (h : s.get? key = some (.object members)) :
    (∃ texts, members = Dict.mapValues Json.string texts ∧
      s.getAs? (Json.Decoder.dict Json.Decoder.string) key = some (Dict.ofList texts)) ∨
    ((∃ m ∈ members, m.2.string? = none) ∧
      s.getAs? (Json.Decoder.dict Json.Decoder.string) key = none) := by
  have hdecode : s.getAs? (Json.Decoder.dict Json.Decoder.string) key =
      (Json.Decoder.members .ok Json.Decoder.string (Json.Draft.ofMembers members) []).toOption :=
    getAs?_of_get? h
  rw [hdecode]
  rcases members_string members [] with ⟨texts, hmembers, hok⟩ | ⟨hnone, f, hf⟩
  · exact .inl ⟨texts, hmembers, by rw [hok]; rfl⟩
  · exact .inr ⟨hnone, by rw [hf]; rfl⟩

/-! ## The configuration -/

/-- What a configuration makes of the values of a store. Every field is the value of its key, except
that the variables are dropped when one of them is no text. -/
structure Store.Honours (s : Store) (c : Config) : Prop where
  path : s.get? Key.serverPath = some ((c.server.path.map Json.string).getD .null)
  environment : ∃ members, s.get? Key.serverExtraEnv = some (.object members) ∧
    ((∃ texts, members = Dict.mapValues Json.string texts ∧
        c.server.extraEnv = Dict.ofList texts) ∨
      (∃ m ∈ members, m.2.string? = none) ∧ c.server.extraEnv = [])
  runtime : s.get? Key.debugRuntime = some (.string c.debug.runtime)
  vimspector : s.get? Key.vimspectorConfiguration = some (.string c.debug.vimspectorConfiguration)
  template : s.get? Key.nvimDapTemplate = some (.string c.debug.nvimDapTemplate)
  startInsert : s.get? Key.startInsert = some (.bool c.startInsert)
  trace : s.get? Key.trace = some (.string c.trace.name)

namespace History

theorem get?_getD_text {h : History} {key : String} {schema : Schema}
    (hcalls : ∀ c ∈ h, c.isCall = true) (hkey : (key, schema) ∈ knownSchemas)
    (htype : schema.type = .string) (hnull : schema.nullable = false) (initial : String) :
    h.store.get? key =
      some (.string ((h.store.getAs? Json.Decoder.string key).getD initial)) := by
  obtain ⟨t, ht, -⟩ := get?_text hcalls hkey htype hnull
  rw [Store.getAs?_of_get? ht, ht]
  rfl

/-- After calls only, the configuration honours all values but the server's variables, of which it
keeps either all or none. -/
theorem honours_config (h : History) (hcalls : ∀ c ∈ h, c.isCall = true) :
    h.store.Honours h.store.config := by
  constructor
  case path =>
    obtain ⟨v, hv, hadmits⟩ := get?_known hcalls (List.mem_of_getElem? (i := 0) rfl)
    rw [hv, Store.config, Store.getAs?_of_get? hv]
    cases hadmits with
    | null | text => rfl
    | truth ht | object ht => cases ht
  case environment =>
    obtain ⟨v, hv, hadmits⟩ := get?_known hcalls (List.mem_of_getElem? (i := 1) rfl)
    cases hadmits with
    | null hn => cases hn
    | text ht | truth ht => cases ht
    | @object members =>
      refine ⟨members, hv, ?_⟩
      rcases Store.getAs?_texts hv with ⟨texts, hmembers, hsome⟩ | ⟨hother, hnone⟩
      · refine .inl ⟨texts, hmembers, ?_⟩
        rw [Store.config, hsome]
        rfl
      · refine .inr ⟨hother, ?_⟩
        rw [Store.config, hnone]
        rfl
  case runtime => exact get?_getD_text hcalls (List.mem_of_getElem? (i := 2) rfl) rfl rfl _
  case vimspector => exact get?_getD_text hcalls (List.mem_of_getElem? (i := 3) rfl) rfl rfl _
  case template => exact get?_getD_text hcalls (List.mem_of_getElem? (i := 4) rfl) rfl rfl _
  case startInsert =>
    obtain ⟨v, hv, hadmits⟩ := get?_known hcalls (List.mem_of_getElem? (i := 5) rfl)
    rw [hv, Store.config, Store.getAs?_of_get? hv]
    cases hadmits with
    | null hn => cases hn
    | text ht | object ht => cases ht
    | truth => rfl
  case trace =>
    obtain ⟨t, ht, hallowed⟩ := get?_text hcalls (List.mem_of_getElem? (i := 6) rfl) rfl rfl
    obtain ⟨level, hlevel, hname⟩ :=
      TraceLevel.ofName?_of_choice (List.contains_iff_mem.mp hallowed)
    have hdecode : TraceLevel.decode.ofJson? (.string t) = some level := by
      simp [TraceLevel.decode, Json.Decoder.named, Json.Decoder.namedWith, Json.Decoder.ofJson?,
        Json.Draft.ofJson, hlevel, Except.toOption]
    rw [ht, Store.config, Store.getAs?_of_get? ht, hdecode, ← hname]
    rfl

/-- Of two variables one of which is a number, both are accepted and none is kept. -/
theorem honours_config_variables :
    let h : History := [.set Key.serverExtraEnv
      (.object [("A", .string "x"), ("B", .number (.int 1))]) .default]
    h.store.get? Key.serverExtraEnv =
      some (.object [("A", .string "x"), ("B", .number (.int 1))]) ∧
    h.store.config.server.extraEnv = [] ∧ h.store.Honours h.store.config := by
  refine ⟨rfl, rfl, honours_config _ fun c hc => ?_⟩
  rw [List.mem_singleton.mp hc]
  rfl

end History

end AnalyzerClient.Settings
