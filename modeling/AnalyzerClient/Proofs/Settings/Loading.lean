import AnalyzerClient.Proofs.Settings.History
import AnalyzerClient.Proofs.Settings.Saved

/-!
# Stores that are loaded

A loaded store has the known schemas, an empty layer of defaults, and for the user and the workspace
the layer of the file, if there is one (`Store.Loaded`). A file that is there and cannot be read is
the only reason not to be loaded (`Store.exists_load`).
-/

namespace AnalyzerClient.Settings

open AnalyzerClient.Json (SoundMembers)

/-- The file of a priority. -/
def fileOf (configurations root : Option String) : Priority → Option String
  | .default => none
  | .user => configurations.map userFile
  | .workspace => root.map workspaceFile

/-- The layer that a file gives: none exactly if there is no file. -/
def Held (files : FileTree) (path : Option String) (p : Priority) : Option Layer → Prop
  | none => ∀ q ∈ path, files.contains q = false
  | some l => ∃ q ∈ path, files.contains q = true ∧ Layer.ofFile files q p = .ok l

namespace Held

variable {files : FileTree} {path : Option String} {p : Priority} {l : Layer}

theorem priority (h : Held files path p (some l)) : l.priority = p := by
  obtain ⟨q, -, -, hfile⟩ := h
  obtain ⟨text, l', htext, rfl⟩ := Layer.ofFile_eq_ok hfile
  exact (Layer.sound_of_ofText htext).1

theorem sound (h : Held files path p (some l)) :
    SoundMembers (Json.Draft.maxDepth - 1) l.values := by
  obtain ⟨q, -, -, hfile⟩ := h
  obtain ⟨text, l', htext, rfl⟩ := Layer.ofFile_eq_ok hfile
  exact (Layer.sound_of_ofText htext).2

end Held

namespace Store

variable {s s' : Store} {files : FileTree} {path : Option String} {p q : Priority} {l : Layer}
  {lo lu lw : Option Layer} {configurations root : Option String}

/-- The store with one more layer, if there is one. -/
def addFound (s : Store) : Option Layer → Store
  | none => s
  | some l => s.addLayer l

theorem addFile_eq_ok_iff :
    s.addFile files path p = .ok s' ↔ ∃ lo, Held files path p lo ∧ s' = s.addFound lo := by
  cases path with
  | none =>
    refine ⟨fun h => ⟨none, fun q hq => (by cases hq), by cases h; rfl⟩, ?_⟩
    rintro ⟨lo, hlo, rfl⟩
    cases lo with
    | none => rfl
    | some l => obtain ⟨q, hq, -⟩ := hlo; cases hq
  | some path =>
    rw [addFile]
    cases hfile : files.contains path with
    | false =>
      refine ⟨fun h => ⟨none, fun q hq => by cases hq; exact hfile, by cases h; rfl⟩, ?_⟩
      rintro ⟨lo, hlo, rfl⟩
      cases lo with
      | none => rfl
      | some l =>
        obtain ⟨q, hq, hthere, -⟩ := hlo
        cases hq
        rw [hfile] at hthere
        cases hthere
    | true =>
      rw [if_pos rfl]
      cases hread : Layer.ofFile files path p with
      | error e =>
        refine ⟨fun h => (by cases h), ?_⟩
        rintro ⟨lo, hlo, rfl⟩
        cases lo with
        | none => exact absurd (hlo path rfl) (by rw [hfile]; decide)
        | some l =>
          obtain ⟨q, hq, -, hl⟩ := hlo
          cases hq
          rw [hread] at hl
          cases hl
      | ok l =>
        refine ⟨fun h => ⟨some l, ⟨path, rfl, hfile, hread⟩, by cases h; rfl⟩, ?_⟩
        rintro ⟨lo, hlo, rfl⟩
        cases lo with
        | none => exact absurd (hlo path rfl) (by rw [hfile]; decide)
        | some l' =>
          obtain ⟨q, hq, -, hl⟩ := hlo
          cases hq
          rw [hread] at hl
          cases hl
          rfl

theorem layer?_addFound (s : Store) (hlo : ∀ l ∈ lo, l.priority = p) (q : Priority) :
    (s.addFound lo).layer? q = if p = q then lo.or (s.layer? q) else s.layer? q := by
  cases lo with
  | none => simp [addFound]
  | some l =>
    rw [addFound, layer?_addLayer, hlo l rfl]
    rfl

theorem schemas_addFound (s : Store) (lo : Option Layer) : (s.addFound lo).schemas = s.schemas := by
  cases lo <;> rfl

theorem Ordered.addFound (h : s.Ordered) (hlo : ∀ l ∈ lo, l.values.Sorted) :
    (s.addFound lo).Ordered := by
  cases lo with
  | none => exact h
  | some l => exact h.addLayer (hlo l rfl)

theorem load_eq_ok_iff : Store.load files configurations root = .ok s ↔
    ∃ lu lw, Held files (fileOf configurations root .user) .user lu ∧
      Held files (fileOf configurations root .workspace) .workspace lw ∧
      s = (Store.initial.addFound lu).addFound lw := by
  have hbind : Store.load files configurations root = .ok s ↔ ∃ s₁,
      Store.initial.addFile files (configurations.map userFile) .user = .ok s₁ ∧
      s₁.addFile files (root.map workspaceFile) .workspace = .ok s := by
    simp only [load, bind, Except.bind]
    cases Store.initial.addFile files (configurations.map userFile) .user <;> simp
  rw [hbind]
  constructor
  · rintro ⟨s₁, hu, hw⟩
    obtain ⟨lu, hlu, rfl⟩ := addFile_eq_ok_iff.mp hu
    obtain ⟨lw, hlw, rfl⟩ := addFile_eq_ok_iff.mp hw
    exact ⟨lu, lw, hlu, hlw, rfl⟩
  · rintro ⟨lu, lw, hlu, hlw, rfl⟩
    exact ⟨_, addFile_eq_ok_iff.mpr ⟨lu, hlu, rfl⟩, addFile_eq_ok_iff.mpr ⟨lw, hlw, rfl⟩⟩

/-- A store that was loaded from files. -/
structure Loaded (files : FileTree) (configurations root : Option String) (s : Store) : Prop where
  ordered : s.Ordered
  schemas : s.schemas = Store.initial.schemas
  default : s.layer? .default = Store.initial.layer? .default
  layer : ∀ p, p ≠ .default → Held files (fileOf configurations root p) p (s.layer? p)

theorem loaded_of_held (hu : Held files (fileOf configurations root .user) .user lu)
    (hw : Held files (fileOf configurations root .workspace) .workspace lw) :
    Loaded files configurations root ((Store.initial.addFound lu).addFound lw) ∧
      ((Store.initial.addFound lu).addFound lw).layer? .user = lu ∧
      ((Store.initial.addFound lu).addFound lw).layer? .workspace = lw := by
  have hpu : ∀ l ∈ lu, l.priority = .user := fun l hl => by cases hl; exact hu.priority
  have hpw : ∀ l ∈ lw, l.priority = .workspace := fun l hl => by cases hl; exact hw.priority
  have hinitial := Agrees.initial
  have hnoUser : Store.initial.layer? .user = none :=
    Option.not_isSome_iff_eq_none.mp (by rw [hinitial.layers]; nofun)
  have hnoWorkspace : Store.initial.layer? .workspace = none :=
    Option.not_isSome_iff_eq_none.mp (by rw [hinitial.layers]; nofun)
  have huser : ((Store.initial.addFound lu).addFound lw).layer? .user = lu := by
    rw [layer?_addFound _ hpw, if_neg nofun, layer?_addFound _ hpu, if_pos rfl, hnoUser,
      Option.or_none]
  have hworkspace : ((Store.initial.addFound lu).addFound lw).layer? .workspace = lw := by
    rw [layer?_addFound _ hpw, if_pos rfl, layer?_addFound _ hpu, if_neg nofun, hnoWorkspace,
      Option.or_none]
  refine ⟨⟨?_, ?_, ?_, fun p hp => ?_⟩, huser, hworkspace⟩
  · exact (hinitial.ordered.addFound fun l hl => by cases hl; exact hu.sound.sorted).addFound
      fun l hl => by cases hl; exact hw.sound.sorted
  · rw [schemas_addFound, schemas_addFound]
  · rw [layer?_addFound _ hpw, if_neg nofun, layer?_addFound _ hpu, if_neg nofun]
  · cases p with
    | default => exact absurd rfl hp
    | user => rw [huser]; exact hu
    | workspace => rw [hworkspace]; exact hw

theorem loaded_of_load (h : Store.load files configurations root = .ok s) :
    Loaded files configurations root s := by
  obtain ⟨lu, lw, hu, hw, rfl⟩ := load_eq_ok_iff.mp h
  exact (loaded_of_held hu hw).1

/-- Files that can be read, or are not there, are loaded. -/
theorem exists_load {found : Priority → Option Layer}
    (h : ∀ p, p ≠ .default → Held files (fileOf configurations root p) p (found p)) :
    ∃ s, Store.load files configurations root = .ok s ∧
      ∀ p, p ≠ .default → s.layer? p = found p := by
  have hu := h .user nofun
  have hw := h .workspace nofun
  obtain ⟨-, huser, hworkspace⟩ := loaded_of_held hu hw
  refine ⟨_, load_eq_ok_iff.mpr ⟨_, _, hu, hw, rfl⟩, fun p hp => ?_⟩
  cases p with
  | default => exact absurd rfl hp
  | user => exact huser
  | workspace => exact hworkspace

end Store

end AnalyzerClient.Settings
