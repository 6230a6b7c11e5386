import AnalyzerClient.Proofs.Settings.Loading

/-!
# Changes that last

A value that was written to the file of a priority is there when the settings are loaded again, and
nothing else has changed (`Store.Remembers`). This holds exactly when the value can be nested once
more in the object of the file, and the directories that were made for the file do not bring the
file of the other priority to light (`Store.write_remembers_iff`).
-/

namespace AnalyzerClient.Settings

open AnalyzerClient.FileTree (EntryName contains_iff)
open AnalyzerClient.Json (IntegralMembers SoundMembers depthMembers)
open AnalyzerClient.Path (EndsWith)

variable {configurations root : Option String} {p q : Priority} {path path' : String}

/-! ## The files of the priorities -/

/-- The directory in which the file of a priority is. -/
def Priority.directoryName : Priority → String
  | .default => ""
  | .user => "webby"
  | .workspace => ".webby"

/-- The name of every settings file. -/
def fileName : String := "settings.json"

theorem entryName_fileName : EntryName fileName := ⟨by decide, by decide, by decide⟩

theorem entryName_directoryName (hp : p ≠ .default) : EntryName p.directoryName := by
  cases p with
  | default => exact absurd rfl hp
  | user => exact ⟨by decide, by decide, by decide⟩
  | workspace => exact ⟨by decide, by decide, by decide⟩

theorem directoryName_ne (h : p ≠ q) : p.directoryName ≠ q.directoryName := by
  cases p <;> cases q <;> first | exact absurd rfl h | decide

theorem ne_default_of_fileOf (h : fileOf configurations root p = some path) : p ≠ .default := by
  rintro rfl
  cases h

theorem fileOf_endsWith (h : fileOf configurations root p = some path) :
    EndsWith path [p.directoryName, fileName] := by
  cases p with
  | default => cases h
  | user =>
    obtain ⟨directory, -, rfl⟩ := Option.map_eq_some_iff.mp h
    exact Path.endsWith_names directory (by decide) (by decide)
  | workspace =>
    obtain ⟨directory, -, rfl⟩ := Option.map_eq_some_iff.mp h
    exact Path.endsWith_names directory (by decide) (by decide)

namespace Store

variable {s s' s₁ : Store} {files files' : FileTree} {key : String} {value : Json} {layer : Layer}

/-! ## What is written -/

/-- The layer that a write saves. -/
def changed (s : Store) (p : Priority) (key : String) (value : Json) : Layer :=
  ((s.layer? p).getD (.empty p)).set key value

theorem save_of_write (h : s.write files key value p path = (.ok (), s₁, files')) :
    (s.changed p key value).save files path = (.ok (), files') := by
  simp only [write] at h
  cases hset : (s.ensureLayer p).set key value p with
  | error e => rw [hset] at h; cases h
  | ok s₂ =>
    obtain ⟨-, -, rfl⟩ := set_eq_ok_iff.mp hset
    have hlayer : ((s.ensureLayer p).put key value p).layer? p = some (s.changed p key value) := by
      rw [layer?_put, if_pos rfl, layer?_ensureLayer, if_pos rfl]
      rfl
    rw [hset] at h
    simp only [hlayer] at h
    obtain ⟨hresult, hrest⟩ := Prod.mk.inj h
    exact Prod.ext hresult (Prod.mk.inj hrest).2

/-- The values of a layer that a file gave, or of a new one. -/
theorem Loaded.sound (h : Loaded files configurations root s) (hp : p ≠ .default) :
    SoundMembers (Json.Draft.maxDepth - 1) ((s.layer? p).getD (.empty p)).values := by
  have hheld := h.layer p hp
  cases hl : s.layer? p with
  | none => exact .nil _
  | some l => rw [hl] at hheld; exact hheld.sound

theorem integral_changed (hlayer : ∀ l, s.layer? p = some l → IntegralMembers l.values)
    (hvalue : value.Integral) : IntegralMembers (s.changed p key value).values := by
  refine Json.integralMembers_iff.mpr fun entry hentry => ?_
  rcases Dict.mem_insert hentry with rfl | hentry
  · exact hvalue
  · cases hl : s.layer? p with
    | none => rw [hl] at hentry; cases hentry
    | some l => rw [hl] at hentry; exact Json.integralMembers_iff.mp (hlayer l hl) entry hentry

theorem depth_le_depth_changed (s : Store) (p : Priority) (key : String) (value : Json) :
    value.depth ≤ depthMembers (s.changed p key value).values :=
  Json.depthMembers_le_iff.mp (Nat.le_refl _) (key, value)
    (Dict.mem_of_get? (Dict.get?_insert_self ..))

/-! ## What is loaded again -/

/-- The file of another priority stays as it was. -/
theorem find_of_write (hpath : fileOf configurations root p = some path)
    (hwrite : s.write files key value p path = (.ok (), s₁, files')) (hne : q ≠ p)
    (hpath' : fileOf configurations root q = some path') {node : FileNode}
    (hfind : files.find path' = .ok node) : files'.find path' = .ok node :=
  Layer.find_of_save_of_ne entryName_fileName
    (entryName_directoryName (ne_default_of_fileOf hpath))
    (entryName_directoryName (ne_default_of_fileOf hpath')) (directoryName_ne hne.symm)
    (fileOf_endsWith hpath) (fileOf_endsWith hpath') (save_of_write hwrite) hfind

theorem held_of_write (hload : Loaded files configurations root s)
    (hpath : fileOf configurations root p = some path)
    (hwrite : s.write files key value p path = (.ok (), s₁, files')) (hne : q ≠ p)
    (hq : q ≠ .default) (hnew : ∀ path' ∈ fileOf configurations root q,
      files'.contains path' = true → files.contains path' = true) :
    Held files' (fileOf configurations root q) q (s.layer? q) := by
  have hheld := hload.layer q hq
  cases hl : s.layer? q with
  | none =>
    rw [hl] at hheld
    intro path' hpath'
    cases hthere : files'.contains path' with
    | false => rfl
    | true => exact absurd (hnew path' hpath' hthere) (by rw [hheld path' hpath']; nofun)
  | some l =>
    rw [hl] at hheld
    obtain ⟨path', hpath', hthere, hfile⟩ := hheld
    obtain ⟨node, hnode⟩ := contains_iff.mp hthere
    have hnode' := find_of_write hpath hwrite hne hpath' hnode
    refine ⟨path', hpath', contains_iff.mpr ⟨node, hnode'⟩, ?_⟩
    rw [Layer.ofFile_eq_of_find (hnode'.trans hnode.symm), hfile]

/-- The layer that a write saved, as it is read again. -/
theorem ofFile_of_write (hpath : fileOf configurations root p = some path)
    (hwrite : s.write files key value p path = (.ok (), s₁, files')) :
    files'.contains path = true ∧ Layer.ofFile files' path p =
      ((Layer.ofText (s.changed p key value).render p).mapError (Layer.locate path)).map
        fun l => { l with source := some path } := by
  have hends := (fileOf_endsWith hpath).last
  obtain ⟨executable, hfind⟩ := Layer.find_of_save entryName_fileName hends (save_of_write hwrite)
  exact ⟨contains_iff.mpr ⟨_, hfind⟩,
    Layer.ofFile_of_save entryName_fileName hends (save_of_write hwrite) p⟩

theorem directory_of_write (hwrite : s.write files key value p path = (.ok (), s₁, files')) :
    files'.directory = files.directory := Layer.directory_of_save (save_of_write hwrite)

/-! ## Changes that last -/

/-- A store that has a value for a key in the layer of a priority, and is another store in all other
respects. -/
structure Remembers (s s' : Store) (p : Priority) (key : String) (value : Json) : Prop where
  written : s'.held? p key = some value
  kept : ∀ k, k ≠ key → s'.held? p k = s.held? p k
  others : ∀ q, q ≠ p → s'.layer? q = s.layer? q
  effective : ∀ k, k ≠ key → s'.get? k = s.get? k

theorem remembers_of_layer (hs : Loaded files configurations root s)
    (hs' : Loaded files' configurations root s')
    (hlayer : (s'.layer? p).map Layer.values = some (s.changed p key value).values)
    (hothers : ∀ q, q ≠ p → s'.layer? q = s.layer? q) : s.Remembers s' p key value := by
  have hheld (k : String) : s'.held? p k = if k = key then some value else s.held? p k := by
    obtain ⟨l, hl, hvalues⟩ := Option.map_eq_some_iff.mp hlayer
    have hget : s'.held? p k = (s.changed p key value).values.get? k := by
      rw [held?, hl, ← hvalues]; rfl
    rw [hget, changed, Layer.set, Dict.get?_insert, held?]
    cases s.layer? p <;> rfl
  have hkept (k : String) (hk : k ≠ key) : s'.held? p k = s.held? p k := by rw [hheld, if_neg hk]
  refine ⟨by rw [hheld, if_pos rfl], hkept, hothers, fun k hk => ?_⟩
  refine get?_eq_of_held hs.ordered hs'.ordered (hs'.schemas.trans hs.schemas.symm) fun q => ?_
  by_cases hq : q = p
  · subst hq; exact hkept k hk
  · rw [held?, hothers q hq, held?]

/-- A change brings no file of another priority to light. -/
def Undisturbed (files files' : FileTree) (configurations root : Option String) (p : Priority) :
    Prop :=
  ∀ q, q ≠ p → ∀ path ∈ fileOf configurations root q,
    files'.contains path = true → files.contains path = true

theorem load_of_write (hload : Loaded files configurations root s)
    (hpath : fileOf configurations root p = some path)
    (hwrite : s.write files key value p path = (.ok (), s₁, files')) (hproper : value.Proper)
    (hvalue : value.Integral) (hlayer : ∀ l, s.layer? p = some l → IntegralMembers l.values)
    (hdepth : value.depth < Json.Draft.maxDepth)
    (hnew : Undisturbed files files' configurations root p) :
    ∃ s', Store.load files' configurations root = .ok s' ∧ s.Remembers s' p key value := by
  have hp := ne_default_of_fileOf hpath
  have hsound : SoundMembers (Json.Draft.maxDepth - 1) (s.changed p key value).values :=
    (hload.sound hp).insert hproper (Nat.le_sub_one_of_lt hdepth)
  have htext := Layer.ofText_render (p := p) hsound (integral_changed hlayer hvalue)
    (Nat.lt_of_le_of_lt hsound.depth (by decide))
  obtain ⟨hthere, hfile⟩ := ofFile_of_write hpath hwrite
  rw [htext] at hfile
  have hwritten : Held files' (fileOf configurations root p) p
      (some ⟨p, some path, (s.changed p key value).values⟩) := ⟨path, hpath, hthere, hfile⟩
  have hfound (q : Priority) (hq : q ≠ .default) : Held files' (fileOf configurations root q) q
      (if q = p then some ⟨p, some path, (s.changed p key value).values⟩ else s.layer? q) := by
    by_cases hqp : q = p
    · subst hqp; rw [if_pos rfl]; exact hwritten
    · rw [if_neg hqp]; exact held_of_write hload hpath hwrite hqp hq (hnew q hqp)
  obtain ⟨s', hload', hlayers⟩ := exists_load hfound
  refine ⟨s', hload', remembers_of_layer hload (loaded_of_load hload') ?_ fun q hq => ?_⟩
  · rw [hlayers p hp, if_pos rfl]; rfl
  · by_cases hd : q = .default
    · subst hd; rw [(loaded_of_load hload').default, hload.default]
    · rw [hlayers q hd, if_neg hq]

theorem depth_of_load (hload : Loaded files configurations root s)
    (hpath : fileOf configurations root p = some path)
    (hwrite : s.write files key value p path = (.ok (), s₁, files')) (hproper : value.Proper)
    (hvalue : value.Integral) (hlayer : ∀ l, s.layer? p = some l → IntegralMembers l.values)
    (hload' : Loaded files' configurations root s') : value.depth < Json.Draft.maxDepth := by
  refine Nat.not_le.mp fun hdeep => ?_
  have hp := ne_default_of_fileOf hpath
  have hsound : SoundMembers (max (Json.Draft.maxDepth - 1) value.depth)
      (s.changed p key value).values :=
    ((hload.sound hp).mono (Nat.le_max_left ..)).insert hproper (Nat.le_max_right ..)
  obtain ⟨e, he⟩ := Layer.ofText_render_deep (p := p) hsound (integral_changed hlayer hvalue)
    (Nat.le_trans hdeep (depth_le_depth_changed s p key value))
  obtain ⟨hthere, hfile⟩ := ofFile_of_write hpath hwrite
  rw [he] at hfile
  have hheld := hload'.layer p hp
  cases hl : s'.layer? p with
  | none =>
    rw [hl] at hheld
    rw [hheld path hpath] at hthere
    cases hthere
  | some l =>
    rw [hl] at hheld
    obtain ⟨path', hpath', -, hread⟩ := hheld
    cases hpath.symm.trans hpath'
    rw [hfile] at hread
    cases hread

theorem undisturbed_of_load (hload : Loaded files configurations root s)
    (hload' : Loaded files' configurations root s')
    (hothers : ∀ q, q ≠ p → s'.layer? q = s.layer? q) :
    Undisturbed files files' configurations root p := by
  intro q hq path hpath hthere
  have hd := ne_default_of_fileOf hpath
  have hheld := hload.layer q hd
  have hheld' := hload'.layer q hd
  rw [hothers q hq] at hheld'
  cases hl : s.layer? q with
  | none =>
    rw [hl] at hheld'
    rw [hheld' path hpath] at hthere
    cases hthere
  | some l =>
    rw [hl] at hheld
    obtain ⟨path', hpath', hthere', -⟩ := hheld
    cases hpath.symm.trans hpath'
    exact hthere'

/-- After a write the settings can be loaded again, and they are what they were but for the value,
exactly when the value is not nested as deep as a text may be, and the write brings no file of
another priority to light. -/
theorem write_remembers_iff (hload : Store.load files configurations root = .ok s)
    (hpath : fileOf configurations root p = some path)
    (hwrite : s.write files key value p path = (.ok (), s₁, files')) (hproper : value.Proper)
    (hvalue : value.Integral) (hlayer : ∀ l, s.layer? p = some l → IntegralMembers l.values) :
    (∃ s', Store.load files' configurations root = .ok s' ∧ s.Remembers s' p key value) ↔
      value.depth < Json.Draft.maxDepth ∧ Undisturbed files files' configurations root p := by
  have hloaded := loaded_of_load hload
  constructor
  · rintro ⟨s', hload', hremembers⟩
    have hloaded' := loaded_of_load hload'
    exact ⟨depth_of_load hloaded hpath hwrite hproper hvalue hlayer hloaded',
      undisturbed_of_load hloaded hloaded' hremembers.others⟩
  · rintro ⟨hdepth, hnew⟩
    exact load_of_write hloaded hpath hwrite hproper hvalue hlayer hdepth hnew

end Store

end AnalyzerClient.Settings
