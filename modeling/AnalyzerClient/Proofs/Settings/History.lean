import AnalyzerClient.Proofs.Settings.Layers
import AnalyzerClient.Settings.Config

/-!
# Histories of a store

What a store answers is read off the history of its changes: a key has the value that was accepted
last for it in the highest layer that has the key, counted from the values with which the layer was
added, or else the default of the schema that was registered last. `Agrees` relates a store to such
a history; every change preserves it (`Agrees.change`), so it holds of every store that is made by
changes from the initial one (`History.agrees`).
-/

namespace AnalyzerClient.Settings

/-- A change of a store. The dictionary of a layer that is added has increasing keys. -/
inductive Change where
  | register (key : String) (schema : Schema)
  | addLayer (layer : Layer) (sorted : layer.values.Sorted)
  | set (key : String) (value : Json) (priority : Priority)
  | write (files : FileTree) (key : String) (value : Json) (priority : Priority) (path : String)

/-- The changes of a store, the latest first. -/
abbrev History := List Change

namespace Store

/-- The store after a value is set, or the same store when the value is refused. -/
def attempt (s : Store) (key : String) (value : Json) (priority : Priority) : Store :=
  (s.set key value priority).toOption.getD s

/-- The store after a change. -/
def change (s : Store) : Change → Store
  | .register key schema => s.register key schema
  | .addLayer layer _ => s.addLayer layer
  | .set key value priority => s.attempt key value priority
  | .write files key value priority path => (s.write files key value priority path).2.1

end Store

namespace History

/-- The store that a history leads to. -/
def store : History → Store
  | [] => .initial
  | c :: h => (store h).change c

/-- The schema that was registered last for a key. -/
def schemaOf? (key : String) : History → Option Schema
  | [] => (Dict.ofList knownSchemas).get? key
  | .register k schema :: h => if key = k then some schema else schemaOf? key h
  | _ :: h => schemaOf? key h

/-- Whether the schema of a key admits a value. -/
def admits (h : History) (key : String) (value : Json) : Bool :=
  match schemaOf? key h with
  | none => true
  | some schema => (schema.validate value).isOk

/-- Whether there is a layer of a priority. -/
def hasLayer (p : Priority) : History → Bool
  | [] => p == .default
  | .addLayer layer _ :: h => p == layer.priority || hasLayer p h
  | .write _ _ _ q _ :: h => p == q || hasLayer p h
  | _ :: h => hasLayer p h

/-- Whether a value is accepted for a key in the layer of a priority. -/
def accepts (h : History) (key : String) (value : Json) (p : Priority) : Bool :=
  admits h key value && hasLayer p h

/-- The value of a key in the layer of a priority: the one that was accepted last since the layer
was added, or else the one it was added with. -/
def held? (p : Priority) (key : String) : History → Option Json
  | [] => none
  | .register _ _ :: h => held? p key h
  | .addLayer layer _ :: h => if p = layer.priority then layer.get? key else held? p key h
  | .set k value q :: h =>
    if p = q ∧ key = k ∧ accepts h k value q then some value else held? p key h
  | .write _ k value q _ :: h =>
    if p = q ∧ key = k ∧ admits h k value then some value else held? p key h

/-- The value of a key. -/
def value? (h : History) (key : String) : Option Json :=
  (Priority.ascending.reverse.findSome? (held? · key h)).or ((schemaOf? key h).bind (·.default))

end History

namespace Store

variable {s : Store} {h : History}

/-! ## Attempts -/

/-- Whether a value is accepted. -/
def accepts (s : Store) (key : String) (value : Json) (p : Priority) : Bool :=
  (s.validate key value).isOk && (s.layer? p).isSome

theorem attempt_eq (s : Store) (key : String) (value : Json) (p : Priority) :
    s.attempt key value p = if s.accepts key value p then s.put key value p else s := by
  rw [attempt, set_eq, accepts]
  cases s.validate key value with
  | error e => rfl
  | ok _ => cases s.layer? p <;> rfl

theorem isSome_layer?_put (s : Store) (key : String) (value : Json) (p q : Priority) :
    ((s.put key value p).layer? q).isSome = (s.layer? q).isSome := by
  rw [layer?_put]
  split
  · next hp => subst hp; exact Option.isSome_map
  · rfl

theorem held?_put {p : Priority} (hp : (s.layer? p).isSome) (key k : String) (value : Json)
    (q : Priority) : (s.put key value p).held? q k =
      if q = p ∧ k = key then some value else s.held? q k := by
  rw [held?, layer?_put, held?]
  obtain ⟨l, hl⟩ := Option.isSome_iff_exists.mp hp
  by_cases hq : p = q
  · subst hq
    rw [if_pos rfl, hl]
    simp [Layer.get?, Layer.set, Dict.get?_insert]
  · rw [if_neg hq, if_neg fun hk => hq hk.1.symm]

theorem held?_addLayer (s : Store) (layer : Layer) (p : Priority) (key : String) :
    (s.addLayer layer).held? p key =
      if p = layer.priority then layer.get? key else s.held? p key := by
  rw [held?, layer?_addLayer, held?]
  by_cases hp : layer.priority = p
  · rw [if_pos hp, if_pos hp.symm]; rfl
  · rw [if_neg hp, if_neg fun he => hp he.symm]

/-- The layer that is made for a value holds nothing yet. -/
theorem held?_ensureLayer (s : Store) (p q : Priority) (key : String) :
    (s.ensureLayer p).held? q key = s.held? q key := by
  rw [held?, layer?_ensureLayer, held?]
  split
  · next hp => subst hp; cases s.layer? p <;> rfl
  · rfl

theorem isSome_layer?_ensureLayer (s : Store) (p q : Priority) :
    ((s.ensureLayer p).layer? q).isSome = (q == p || (s.layer? q).isSome) := by
  rw [layer?_ensureLayer]
  by_cases hp : p = q
  · subst hp; simp
  · simp [hp, Ne.symm hp]

theorem schemas_ensureLayer (s : Store) (p : Priority) : (s.ensureLayer p).schemas = s.schemas := by
  unfold ensureLayer
  split <;> rfl

theorem schemas_attempt (s : Store) (key : String) (value : Json) (p : Priority) :
    (s.attempt key value p).schemas = s.schemas := by
  rw [attempt_eq]
  split <;> rfl

theorem Ordered.attempt (H : s.Ordered) (key : String) (value : Json) (p : Priority) :
    (s.attempt key value p).Ordered := by
  rw [attempt_eq]
  split
  · exact H.put key value p
  · exact H

theorem isSome_layer?_attempt (s : Store) (key : String) (value : Json) (p q : Priority) :
    ((s.attempt key value p).layer? q).isSome = (s.layer? q).isSome := by
  rw [attempt_eq]
  split
  · exact isSome_layer?_put ..
  · rfl

theorem held?_attempt (s : Store) (key k : String) (value : Json) (p q : Priority) :
    (s.attempt key value p).held? q k =
      if q = p ∧ k = key ∧ s.accepts key value p then some value else s.held? q k := by
  rw [attempt_eq]
  by_cases ha : s.accepts key value p
  · have hp : (s.layer? p).isSome := (Bool.and_eq_true_iff.mp ha).2
    rw [if_pos ha, held?_put hp]
    simp only [ha, and_true]
  · rw [if_neg ha, if_neg fun hk => ha hk.2.2]

/-- A write makes the layer and attempts to set the value; what becomes of the file leaves no trace
in the store. -/
theorem write_store (s : Store) (files : FileTree) (key : String) (value : Json) (p : Priority)
    (path : String) :
    (s.write files key value p path).2.1 = (s.ensureLayer p).attempt key value p := by
  simp only [write, attempt]
  cases (s.ensureLayer p).set key value p with
  | error e => rfl
  | ok s' => cases hl : s'.layer? p <;> simp [hl, Except.toOption]

end Store

/-! ## Stores that agree with a history -/

/-- The layers, the schemas and the values of a store are those that a history tells of. -/
structure Agrees (s : Store) (h : History) : Prop where
  ordered : s.Ordered
  schemas : ∀ key, s.schemas.get? key = h.schemaOf? key
  layers : ∀ p, (s.layer? p).isSome = h.hasLayer p
  values : ∀ p key, s.held? p key = h.held? p key

namespace Agrees

variable {s : Store} {h : History}

theorem isOk_validate (H : Agrees s h) (key : String) (value : Json) :
    (s.validate key value).isOk = h.admits key value := by
  rw [Store.validate, H.schemas, History.admits]
  cases h.schemaOf? key with
  | none => rfl
  | some schema => cases hv : schema.validate value <;> simp [hv] <;> rfl

theorem register (H : Agrees s h) (key : String) (schema : Schema) :
    Agrees (s.register key schema) (.register key schema :: h) where
  ordered := H.ordered.register key schema
  schemas k := by
    rw [Store.register, Dict.get?_insert, H.schemas]; rfl
  layers := H.layers
  values := H.values

theorem addLayer (H : Agrees s h) (layer : Layer) (hsorted : layer.values.Sorted) :
    Agrees (s.addLayer layer) (.addLayer layer hsorted :: h) where
  ordered := H.ordered.addLayer hsorted
  schemas := H.schemas
  layers p := by
    rw [Store.layer?_addLayer, History.hasLayer, ← H.layers]
    by_cases hp : layer.priority = p
    · subst hp; simp
    · simp [hp, Ne.symm hp]
  values p key := by
    rw [Store.held?_addLayer, H.values]; rfl

theorem set (H : Agrees s h) (key : String) (value : Json) (p : Priority) :
    Agrees (s.attempt key value p) (.set key value p :: h) := by
  have haccepts : s.accepts key value p = h.accepts key value p := by
    rw [Store.accepts, H.isOk_validate, H.layers, History.accepts]
  refine ⟨H.ordered.attempt key value p, fun k => ?_, fun q => ?_, fun q k => ?_⟩
  · rw [Store.schemas_attempt, H.schemas]; rfl
  · rw [Store.isSome_layer?_attempt, H.layers]; rfl
  · rw [Store.held?_attempt, H.values, haccepts]; rfl

theorem write (H : Agrees s h) (files : FileTree) (key : String) (value : Json) (p : Priority)
    (path : String) :
    Agrees (s.write files key value p path).2.1 (.write files key value p path :: h) := by
  have haccepts : (s.ensureLayer p).accepts key value p = h.admits key value := by
    rw [Store.accepts, Store.validate, Store.schemas_ensureLayer, ← Store.validate, H.isOk_validate,
      Store.isSome_layer?_ensureLayer, beq_self_eq_true, Bool.true_or, Bool.and_true]
  rw [Store.write_store]
  refine ⟨(H.ordered.ensureLayer p).attempt key value p, fun k => ?_, fun q => ?_, fun q k => ?_⟩
  · rw [Store.schemas_attempt, Store.schemas_ensureLayer, H.schemas]; rfl
  · rw [Store.isSome_layer?_attempt, Store.isSome_layer?_ensureLayer, H.layers]; rfl
  · rw [Store.held?_attempt, Store.held?_ensureLayer, H.values, haccepts]; rfl

theorem change (H : Agrees s h) (c : Change) : Agrees (s.change c) (c :: h) := by
  cases c with
  | register key schema => exact H.register key schema
  | addLayer layer hsorted => exact H.addLayer layer hsorted
  | set key value p => exact H.set key value p
  | write files key value p path => exact H.write files key value p path

theorem get?_eq (H : Agrees s h) (key : String) : s.get? key = h.value? key := by
  rw [H.ordered.get?_eq_findSome?, History.value?, H.schemas]
  simp only [H.values]

end Agrees

/-! ## Every history -/

theorem schemas_foldl_register (pairs : List (String × Schema)) (s : Store) :
    (pairs.foldl (fun s (key, schema) => s.register key schema) s).schemas =
      pairs.foldl (fun d p => d.insert p.1 p.2) s.schemas := by
  induction pairs generalizing s with
  | nil => rfl
  | cons p pairs ih => exact ih (s.register p.1 p.2)

theorem layers_foldl_register (pairs : List (String × Schema)) (s : Store) :
    (pairs.foldl (fun s (key, schema) => s.register key schema) s).layers = s.layers := by
  induction pairs generalizing s with
  | nil => rfl
  | cons p pairs ih => exact ih (s.register p.1 p.2)

theorem Agrees.initial : Agrees .initial [] := by
  have hlayers : Store.initial.layers = [.empty .default] := layers_foldl_register ..
  have hschemas : Store.initial.schemas = Dict.ofList knownSchemas := schemas_foldl_register ..
  refine ⟨⟨?_, ?_, fun l hl => ?_⟩, fun key => ?_, fun p => ?_, fun p key => ?_⟩
  · rw [hlayers]; exact List.pairwise_singleton ..
  · rw [hschemas]; exact .ofList _
  · rw [hlayers] at hl
    rw [List.mem_singleton.mp hl]; exact .nil
  · rw [hschemas]; rfl
  · rw [Store.layer?, hlayers]; cases p <;> rfl
  · rw [Store.held?, Store.layer?, hlayers]; cases p <;> rfl

theorem History.agrees (h : History) : Agrees h.store h := by
  induction h with
  | nil => exact .initial
  | cons c h ih => exact ih.change c

theorem History.hasLayer_default (h : History) : h.hasLayer .default = true := by
  induction h with
  | nil => rfl
  | cons c h ih => cases c <;> simp [hasLayer, ih]

/-! ## Refused values -/

/-- A value is refused for its schema or for want of the layer. -/
theorem Agrees.set_eq_error {s : Store} {h : History} (H : Agrees s h) {key : String} {value : Json}
    {p : Priority} {e : Error} (he : s.set key value p = .error e) :
    (∃ schema violation, h.schemaOf? key = some schema ∧
      schema.validate value = .error violation ∧ e = .invalidValue key violation) ∨
    (h.admits key value = true ∧ h.hasLayer p = false ∧ e = .missingLayer p) := by
  rcases Store.set_eq_error_iff.mp he with hv | ⟨hv, hl, rfl⟩
  · rw [Store.validate, H.schemas] at hv
    cases hschema : h.schemaOf? key with
    | none => rw [hschema] at hv; cases hv
    | some schema =>
      rw [hschema] at hv
      cases hvalid : schema.validate value with
      | ok _ => simp only [hvalid, Except.mapError] at hv; cases hv
      | error violation =>
        simp only [hvalid, Except.mapError, Except.error.injEq] at hv
        exact .inl ⟨schema, violation, rfl, hvalid, hv.symm⟩
  · refine .inr ⟨?_, ?_, rfl⟩
    · rw [← H.isOk_validate, hv]; rfl
    · rw [← H.layers, hl]; rfl

/-- A change without effect may be left out of a history. -/
theorem History.store_append_of_eq {h : History} {c : Change} (hc : h.store.change c = h.store)
    (later : History) : store (later ++ c :: h) = store (later ++ h) := by
  induction later with
  | nil => exact hc
  | cons c' later ih => exact congrArg (Store.change · c') ih

/-- A store refines a map for each priority. Its layers stand in the order of their priorities and
there is always one of the defaults; the merge and the search give what the history tells; and a
value that is refused leaves no trace. -/
theorem History.store_refines (h : History) :
    (h.store.layers.Pairwise fun l l' => l.priority.rank < l'.priority.rank) ∧
    (∃ l ∈ h.store.layers, l.priority = .default) ∧
    (∀ key, h.store.all.get? key = h.value? key ∧ h.store.get? key = h.value? key) ∧
    (∀ key value p e, h.store.set key value p = .error e →
      ((∃ schema violation, h.schemaOf? key = some schema ∧
          schema.validate value = .error violation ∧ e = .invalidValue key violation) ∨
        (h.admits key value = true ∧ h.hasLayer p = false ∧ e = .missingLayer p)) ∧
      ∀ later : History, (later ++ .set key value p :: h).store = (later ++ h).store) ∧
    (∀ files key value p path, h.admits key value = false →
      (h.store.write files key value p path).2.1 = h.store.ensureLayer p ∧
      ∀ q k, held? q k (.write files key value p path :: h) = held? q k h) := by
  have H := h.agrees
  refine ⟨H.ordered.ascending, ?_, fun key => ⟨?_, H.get?_eq key⟩, fun key value p e he => ⟨?_, ?_⟩,
    fun files key value p path ha => ⟨?_, fun q k => ?_⟩⟩
  · obtain ⟨l, hl⟩ := Option.isSome_iff_exists.mp ((H.layers .default).trans h.hasLayer_default)
    exact ⟨l, Store.mem_of_layer? hl⟩
  · rw [H.ordered.get?_all, H.get?_eq]
  · exact H.set_eq_error he
  · have hsame : h.store.change (.set key value p) = h.store := by
      rw [Store.change, Store.attempt, he]; rfl
    exact store_append_of_eq hsame
  · have hrefused : (h.store.ensureLayer p).accepts key value p = false := by
      rw [Store.accepts, Store.validate, Store.schemas_ensureLayer, ← Store.validate,
        H.isOk_validate, ha, Bool.false_and]
    rw [Store.write_store, Store.attempt_eq, hrefused]
    rfl
  · rw [held?, ha, if_neg fun hk => Bool.false_ne_true hk.2.2]

/-- A debugger that is none of the choices is refused by `set` and in a `write`. -/
theorem History.store_refines_choice :
    (store []).set Key.debugRuntime (.string "gdb") .default =
        .error (.invalidValue Key.debugRuntime (.choice ["termdebug", "vimspector", "nvim-dap"])) ∧
      (∀ later : History,
        store (later ++ [.set Key.debugRuntime (.string "gdb") .default]) = store (later ++ [])) ∧
      (admits [] Key.debugRuntime (.string "gdb") = false ∧
        ((store []).write .empty Key.debugRuntime (.string "gdb") .user "s").2.1 =
          (store []).ensureLayer .user) := by
  have hset : (store []).set Key.debugRuntime (.string "gdb") .default =
      .error (.invalidValue Key.debugRuntime (.choice ["termdebug", "vimspector", "nvim-dap"])) :=
    rfl
  have hadmits : admits [] Key.debugRuntime (.string "gdb") = false := rfl
  obtain ⟨-, -, -, hrejected, hwrite⟩ := store_refines []
  exact ⟨hset, (hrejected _ _ _ _ hset).2, hadmits, (hwrite _ _ _ _ _ hadmits).1⟩

end AnalyzerClient.Settings
