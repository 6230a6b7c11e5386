import AnalyzerClient.Proofs.Settings.History
import Mathlib.Data.Fintype.EquivFin

/-!
# Writes that fail

A write that fails leaves traces. The layer that was made for a value stays when the value is
refused, so that later values are not refused for want of it, and a value stays when its file cannot
be written. `Store.Alike` says that two stores give the same answers, and
`History.alike_write_iff` says when a store gives the same answers after a write that failed.
-/

namespace AnalyzerClient.Settings

namespace Store

variable {s s' : Store} {p q : Priority} {key k : String} {value v : Json} {e : Error}
  {files files' : FileTree} {path : String}

/-! ## Values that are set later -/

/-- What becomes of setting a value. -/
def verdict (s : Store) (key : String) (value : Json) (p : Priority) : Except Error Unit :=
  (s.set key value p).map fun _ => ()

/-- The store after values are set one after the other, each of which may be refused. -/
def attempts (s : Store) (later : List (String × Json × Priority)) : Store :=
  later.foldl (fun s (key, value, p) => s.attempt key value p) s

theorem verdict_eq (s : Store) (key : String) (value : Json) (p : Priority) :
    s.verdict key value p = match s.validate key value with
      | .error e => .error e
      | .ok () => if (s.layer? p).isSome then .ok () else .error (.missingLayer p) := by
  rw [verdict, set_eq]
  cases s.validate key value with
  | error e => rfl
  | ok _ => cases s.layer? p <;> rfl

theorem verdict_congr (hschemas : s'.schemas = s.schemas)
    (hlayer : (s'.layer? p).isSome = (s.layer? p).isSome) :
    s'.verdict key value p = s.verdict key value p := by
  rw [verdict_eq, verdict_eq, validate, validate, hschemas, hlayer]

theorem verdict_attempts (s : Store) (later : List (String × Json × Priority)) (key : String)
    (value : Json) (p : Priority) :
    (s.attempts later).verdict key value p = s.verdict key value p := by
  induction later generalizing s with
  | nil => rfl
  | cons a later ih =>
    refine (ih (s.attempt a.1 a.2.1 a.2.2)).trans ?_
    exact verdict_congr (schemas_attempt ..) (isSome_layer?_attempt ..)

/-- There is always a key that no schema restricts. -/
theorem exists_unregistered (s : Store) : ∃ key, s.schemas.get? key = none := by
  obtain ⟨key, hkey⟩ := Infinite.exists_notMem_finset s.schemas.keys.toFinset
  refine ⟨key, Dict.get?_eq_none fun p hp he => hkey ?_⟩
  rw [List.mem_toFinset, ← he]
  exact List.mem_map_of_mem hp

/-! ## Stores that give the same answers -/

/-- The stores have the same values for all keys, searched and merged, and the same values can be
set later. -/
structure Alike (s s' : Store) : Prop where
  get? : ∀ key, s'.get? key = s.get? key
  all : ∀ key, s'.all.get? key = s.all.get? key
  verdict : ∀ later key value p,
    (s'.attempts later).verdict key value p = (s.attempts later).verdict key value p

theorem Alike.layers (h : s.Alike s') (hschemas : s'.schemas = s.schemas) (p : Priority) :
    (s'.layer? p).isSome = (s.layer? p).isSome := by
  obtain ⟨key, hkey⟩ := s.exists_unregistered
  have hverdict := h.verdict [] key .null p
  rw [verdict_attempts, verdict_attempts, verdict_eq, verdict_eq, validate, validate, hschemas,
    hkey] at hverdict
  cases hl : s.layer? p <;> cases hl' : s'.layer? p <;> simp [hl, hl'] at hverdict ⊢

theorem Ordered.alike_iff (hs : s.Ordered) (hs' : s'.Ordered) (hschemas : s'.schemas = s.schemas) :
    s.Alike s' ↔ (∀ key, s'.get? key = s.get? key) ∧
      ∀ p, (s'.layer? p).isSome = (s.layer? p).isSome := by
  constructor
  · intro h
    exact ⟨h.get?, h.layers hschemas⟩
  · rintro ⟨hget, hlayers⟩
    refine ⟨hget, fun key => ?_, fun later key value p => ?_⟩
    · rw [hs'.get?_all, hs.get?_all, hget]
    · rw [verdict_attempts, verdict_attempts]
      exact verdict_congr hschemas (hlayers p)

/-! ## The value of a key that was set -/

/-- A key has a value in a layer above that of a priority. -/
def Shadowed (s : Store) (p : Priority) (key : String) : Prop :=
  ∃ q, p.rank < q.rank ∧ (s.held? q key).isSome

theorem get?_put_of_ne (hs : s.Ordered) (hp : (s.layer? p).isSome) (hk : k ≠ key) :
    (s.put key value p).get? k = s.get? k := by
  refine get?_eq_of_held hs (hs.put key value p) rfl fun q => ?_
  rw [held?_put hp, if_neg fun h => hk h.2]

theorem get?_put_of_shadowed (hs : s.Ordered) (hp : (s.layer? p).isSome) (h : s.Shadowed p key) :
    (s.put key value p).get? key = s.get? key := by
  obtain ⟨q, hq, hheld⟩ := h
  obtain ⟨v, hv⟩ := Option.isSome_iff_exists.mp hheld
  rw [hs.get?_eq_findSome?, (hs.put key value p).get?_eq_findSome?]
  congr 1
  cases p <;> cases q <;> simp [Priority.rank] at hq <;>
    simp [Priority.ascending, List.findSome?_cons, held?_put hp, hv]

theorem get?_put_of_not_shadowed (hs : s.Ordered) (hp : (s.layer? p).isSome)
    (h : ¬ s.Shadowed p key) : (s.put key value p).get? key = some value := by
  have hnone (q : Priority) (hq : p.rank < q.rank) : s.held? q key = none :=
    Option.not_isSome_iff_eq_none.mp fun hheld => h ⟨q, hq, hheld⟩
  rw [(hs.put key value p).get?_eq_findSome?]
  cases p with
  | default =>
    have huser := hnone .user (by decide)
    have hworkspace := hnone .workspace (by decide)
    simp [Priority.ascending, held?_put hp, huser, hworkspace]
  | user =>
    have hworkspace := hnone .workspace (by decide)
    simp [Priority.ascending, held?_put hp, hworkspace]
  | workspace => simp [Priority.ascending, held?_put hp]

/-- A value that is set changes no answer when the key has a value in a higher layer, or has this
value already. -/
theorem get?_put_eq_iff (hs : s.Ordered) (hp : (s.layer? p).isSome) (key : String) (value : Json) :
    (s.put key value p).get? key = s.get? key ↔ s.Shadowed p key ∨ s.get? key = some value := by
  by_cases h : s.Shadowed p key
  · simp only [get?_put_of_shadowed hs hp h, h, true_or]
  · rw [get?_put_of_not_shadowed hs hp h, or_iff_right h]
    exact eq_comm

/-! ## Layers that were made -/

theorem get?_ensureLayer (hs : s.Ordered) (p : Priority) (key : String) :
    (s.ensureLayer p).get? key = s.get? key :=
  get?_eq_of_held hs (hs.ensureLayer p) (schemas_ensureLayer s p)
    fun q => held?_ensureLayer s p q key

theorem shadowed_ensureLayer (s : Store) (p q : Priority) (key : String) :
    (s.ensureLayer p).Shadowed q key ↔ s.Shadowed q key := by
  simp only [Shadowed, held?_ensureLayer]

theorem layer?_ensureLayer_self (s : Store) (p : Priority) :
    ((s.ensureLayer p).layer? p).isSome = true := by
  rw [isSome_layer?_ensureLayer, beq_self_eq_true, Bool.true_or]

/-! ## Writes that fail -/

theorem save_eq_error {l : Layer} (h : l.save files path = (.error e, files')) :
    ∃ cause, e = .access path cause := by
  rw [Layer.save] at h
  dsimp only at h
  split at h
  · cases h
    exact ⟨_, rfl⟩
  · split at h <;> cases h
    exact ⟨_, rfl⟩

/-- A write fails because the value is refused, or because the file cannot be written. -/
theorem write_eq_error (h : s.write files key value p path = (.error e, s', files')) :
    (s.validate key value = .error e ∧ s' = s.ensureLayer p ∧ files' = files) ∨
    (s.validate key value = .ok () ∧ s' = (s.ensureLayer p).put key value p ∧
      ∃ cause, e = .access path cause) := by
  have hvalidate : (s.ensureLayer p).validate key value = s.validate key value := by
    rw [validate, validate, schemas_ensureLayer]
  rw [write, set_eq, hvalidate, layer?_ensureLayer_self] at h
  cases hv : s.validate key value with
  | error e' =>
    rw [hv] at h
    cases h
    exact .inl ⟨rfl, rfl, rfl⟩
  | ok _ =>
    have hlayer := isSome_layer?_put (s.ensureLayer p) key value p p
    rw [layer?_ensureLayer_self] at hlayer
    obtain ⟨l, hl⟩ := Option.isSome_iff_exists.mp hlayer
    simp only [hv, if_pos, hl] at h
    cases hsave : l.save files path with
    | mk result files₁ =>
      rw [hsave] at h
      cases h
      exact .inr ⟨rfl, rfl, save_eq_error hsave⟩

/-- The store that a write leaves behind when it fails: the layer is there in any case, and a value
that was not refused is in it. -/
structure Remnant (s : Store) (key : String) (value : Json) (p : Priority) (s' : Store) :
    Prop where
  ordered : s'.Ordered
  schemas : s'.schemas = s.schemas
  layers : ∀ q, (s'.layer? q).isSome = (q == p || (s.layer? q).isSome)
  others : ∀ k, k ≠ key → s'.get? k = s.get? k
  refused : (s.validate key value).isOk = false → s'.get? key = s.get? key
  stored : (s.validate key value).isOk = true →
    (s'.get? key = s.get? key ↔ s.Shadowed p key ∨ s.get? key = some value)

theorem remnant_of_write (hs : s.Ordered)
    (hwrite : s.write files key value p path = (.error e, s', files')) :
    s.Remnant key value p s' := by
  have hmade := hs.ensureLayer p
  have hself := s.layer?_ensureLayer_self p
  rcases write_eq_error hwrite with ⟨hv, rfl, -⟩ | ⟨hv, rfl, -⟩
  · refine ⟨hmade, schemas_ensureLayer .., s.isSome_layer?_ensureLayer p, ?_, ?_, ?_⟩
    · intro k _
      exact get?_ensureLayer hs p k
    · intro _
      exact get?_ensureLayer hs p key
    · intro hok
      rw [hv] at hok
      cases hok
  · refine ⟨hmade.put key value p, schemas_ensureLayer .., ?_, ?_, ?_, ?_⟩
    · intro q
      rw [isSome_layer?_put, isSome_layer?_ensureLayer]
    · intro k hk
      rw [get?_put_of_ne hmade hself hk, get?_ensureLayer hs]
    · intro hrefused
      rw [hv] at hrefused
      cases hrefused
    · intro _
      have hput := get?_put_eq_iff hmade hself key value
      rwa [shadowed_ensureLayer, get?_ensureLayer hs] at hput

namespace Remnant

theorem all (R : s.Remnant key value p s') (hs : s.Ordered) (h : s'.get? k = s.get? k) :
    s'.all.get? k = s.all.get? k := by
  rw [R.ordered.get?_all, hs.get?_all, h]

theorem verdict (R : s.Remnant key value p s') (hq : q ≠ p)
    (later : List (String × Json × Priority)) (k : String) (v : Json) :
    (s'.attempts later).verdict k v q = (s.attempts later).verdict k v q := by
  rw [verdict_attempts, verdict_attempts]
  apply verdict_congr R.schemas
  rw [R.layers, beq_eq_false_iff_ne.mpr hq, Bool.false_or]

theorem layers_iff (R : s.Remnant key value p s') :
    (∀ q, (s'.layer? q).isSome = (s.layer? q).isSome) ↔ (s.layer? p).isSome = true := by
  constructor
  · intro hsame
    rw [← hsame p, R.layers, beq_self_eq_true, Bool.true_or]
  · intro hp q
    by_cases hq : q = p
    · rw [R.layers, hq, hp, Bool.or_true]
    · rw [R.layers, beq_eq_false_iff_ne.mpr hq, Bool.false_or]

theorem get?_iff (R : s.Remnant key value p s') : (∀ k, s'.get? k = s.get? k) ↔
    ((s.validate key value).isOk = false ∨ s.Shadowed p key ∨ s.get? key = some value) := by
  have hkey : (∀ k, s'.get? k = s.get? k) ↔ s'.get? key = s.get? key := by
    constructor
    · intro hall
      exact hall key
    · intro hkey k
      by_cases hk : k = key
      · rw [hk, hkey]
      · exact R.others k hk
  rw [hkey]
  cases hv : (s.validate key value).isOk with
  | false => exact iff_of_true (R.refused hv) (.inl rfl)
  | true => simp [R.stored hv]

end Remnant

end Store

/-- After a write that failed, all other keys have the values that they had, and so has the key
itself when the value is refused; values of other priorities can be set later as before. The store
gives all its answers as before exactly when there was a layer of the priority, and the value is
refused, or the key has a value in a higher layer, or it has this value already. -/
theorem History.alike_write_iff (h : History) {s' : Store} {p : Priority} {key : String}
    {value : Json} {e : Error} {files files' : FileTree} {path : String}
    (hwrite : h.store.write files key value p path = (.error e, s', files')) :
    (∀ k, k ≠ key ∨ (h.store.validate key value).isOk = false →
      s'.get? k = h.store.get? k ∧ s'.all.get? k = h.store.all.get? k) ∧
    (∀ later k v q, q ≠ p →
      (s'.attempts later).verdict k v q = (h.store.attempts later).verdict k v q) ∧
    (h.store.Alike s' ↔ (h.store.layer? p).isSome = true ∧
      ((h.store.validate key value).isOk = false ∨ h.store.Shadowed p key ∨
        h.store.get? key = some value)) := by
  have hs := h.agrees.ordered
  have R := Store.remnant_of_write hs hwrite
  refine ⟨fun k hk => ?_, fun later k v q hq => R.verdict hq later k v, ?_⟩
  · have hsame : s'.get? k = h.store.get? k := by
      by_cases hkey : k = key
      · rw [hkey]
        exact R.refused (hk.resolve_left fun hne => hne hkey)
      · exact R.others k hkey
    exact ⟨hsame, R.all hs hsame⟩
  · rw [hs.alike_iff R.ordered R.schemas, R.layers_iff, R.get?_iff]
    exact and_comm

/-- The layer that was made for a debugger which is none of the choices stays. -/
theorem History.alike_write_iff_choice : ∃ s' files',
    (store []).write .empty Key.debugRuntime (.string "gdb") .workspace "s" =
      (.error (.invalidValue Key.debugRuntime (.choice ["termdebug", "vimspector", "nvim-dap"])),
        s', files') ∧ ¬ (store []).Alike s' := by
  have hwrite : (store []).write .empty Key.debugRuntime (.string "gdb") .workspace "s" =
      (.error (.invalidValue Key.debugRuntime (.choice ["termdebug", "vimspector", "nvim-dap"])),
        (store []).ensureLayer .workspace, .empty) := rfl
  refine ⟨_, _, hwrite, fun halike => ?_⟩
  obtain ⟨hlayer, -⟩ := (alike_write_iff [] hwrite).2.2.mp halike
  cases hlayer

end AnalyzerClient.Settings
