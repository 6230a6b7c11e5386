import AnalyzerClient.CommandLine.Program
import AnalyzerClient.Proofs.Settings.Durable

/-!
# Settings that are set from the command line

What `config set` does when it succeeds (`main_setSetting`), and when the settings can be loaded
again after it (`main_setSetting_remembers_iff`): a value that is nested as deep as a text may be is
accepted, but the file in which it stands is nested deeper (`main_setSetting_of_deep`).
-/

namespace AnalyzerClient.CommandLine

open AnalyzerClient.Settings (Priority Store fileOf)

variable {c c' : Console} {i : Invocation} {s : Store} {args : List String} {key raw : String}
  {user : Bool}

/-- The layer that a command changes. -/
def layerOf (user : Bool) : Priority := if user then .user else .workspace

/-- The machine of a console. -/
def Console.machine (c : Console) : Machine := c.exchange.machine

/-- A console with other files. -/
def Console.withFiles (c : Console) (files : FileTree) : Console :=
  { c with exchange := { c.exchange with machine := { c.exchange.machine with files := files } } }

/-! ## The run of the command -/

/-- Changes a setting in a file. -/
def writeSetting (s : Store) (m : Machine) (key raw : String) (p : Priority) (path : String) :
    CommandM Unit := do
  let (result, _, files) := s.write m.files key (settingValue raw) p path
  modify (·.withFiles files)
  match result with
  | .ok () => return
  | .error e => CommandM.fail (.ofSettings e)

theorem writeSetting_eq (s : Store) (m : Machine) (key raw : String) (p : Priority) (path : String)
    (c : Console) : writeSetting s m key raw p path c =
      let written := s.write m.files key (settingValue raw) p path
      some (written.1.mapError fun e => .failure (.ofSettings e), c.withFiles written.2.2) := by
  have hrun : writeSetting s m key raw p path c =
      match s.write m.files key (settingValue raw) p path with
      | (result, _, files) => (match result with
        | .ok () => pure ()
        | .error e => CommandM.fail (.ofSettings e) : CommandM Unit) (c.withFiles files) := rfl
  rw [hrun]
  obtain ⟨result, _, files⟩ := s.write m.files key (settingValue raw) p path
  cases result <;> rfl

theorem machine_bind_run {β : Type} (f : Machine → CommandM β) (c : Console) :
    (liftM ConsoleM.machine >>= f : CommandM β) c = f c.machine c := rfl

theorem setSetting_eq (s : Store) (root key raw : String) (user : Bool) (c : Console) :
    setSetting s root key raw user c =
      match fileOf (configurationDirectory c.machine) (some root) (layerOf user) with
      | none => some (.error (.failure ⟨"no user configuration directory", []⟩), c)
      | some path => writeSetting s c.machine key raw (layerOf user) path c := by
  rw [setSetting, machine_bind_run]
  cases user with
  | false => rfl
  | true =>
    have hfile : fileOf (configurationDirectory c.machine) (some root) (layerOf true) =
        (configurationDirectory c.machine).map Settings.userFile := rfl
    rw [hfile]
    cases configurationDirectory c.machine <;> rfl

theorem perform_setSetting (hcommand : i.command = .setSetting key raw user) (c : Console) :
    perform i c = match loadSettings c.machine i with
      | .error e => some (.error (.failure (.ofSettings e)), c)
      | .ok s => setSetting s (rootOf c.machine i) key raw user c := by
  rw [perform, machine_bind_run, hcommand]
  cases loadSettings c.machine i <;> rfl

/-- What the user is told of a call, and its status. -/
def report : Except Abort Unit × Console → Nat × Console
  | (.ok (), c) => (0, c)
  | (.error (.failure f), c) => (1, { c with errors := c.errors ++ Text.Utf8.encode f.render })
  | (.error (.breakdown _), c) => (brokenStatus, c)

theorem main_eq (hargs : readArgs args = .ok i) (c : Console) :
    main args c = (perform i c).map report := by
  simp only [main, run, hargs]
  change (((perform i).run c).bind _).bind _ = (perform i c).map _
  rw [Option.bind_assoc, Option.map_eq_bind]
  congr 1
  funext p
  obtain ⟨result, c'⟩ := p
  cases result with
  | ok _ => rfl
  | error a => cases a <;> rfl

/-- What happens when the command succeeds. -/
theorem main_setSetting (hargs : readArgs args = .ok i)
    (hcommand : i.command = .setSetting key raw user) (hrun : main args c = some (0, c')) :
    ∃ s path s₁ files, loadSettings c.machine i = .ok s ∧
      fileOf (configurationDirectory c.machine) (some (rootOf c.machine i)) (layerOf user) =
        some path ∧
      s.write c.machine.files key (settingValue raw) (layerOf user) path = (.ok (), s₁, files) ∧
      c' = c.withFiles files := by
  rw [main_eq hargs, perform_setSetting hcommand] at hrun
  cases hload : loadSettings c.machine i with
  | error e => rw [hload] at hrun; cases hrun
  | ok s =>
    simp only [hload, setSetting_eq] at hrun
    cases hpath : fileOf (configurationDirectory c.machine) (some (rootOf c.machine i))
        (layerOf user) with
    | none => simp only [hpath] at hrun; cases hrun
    | some path =>
      simp only [hpath, writeSetting_eq] at hrun
      cases hwrite : s.write c.machine.files key (settingValue raw) (layerOf user) path with
      | mk result rest =>
        rw [hwrite] at hrun
        cases result with
        | error e => cases hrun
        | ok _ =>
          cases hrun
          exact ⟨s, path, rest.1, rest.2, rfl, rfl, hwrite, rfl⟩

/-- The command succeeds when the settings can be loaded and the file can be written. -/
theorem main_of_write {path : String} {s₁ : Store} {files : FileTree}
    (hargs : readArgs args = .ok i) (hcommand : i.command = .setSetting key raw user)
    (hload : loadSettings c.machine i = .ok s)
    (hpath : fileOf (configurationDirectory c.machine) (some (rootOf c.machine i))
      (layerOf user) = some path)
    (hwrite : s.write c.machine.files key (settingValue raw) (layerOf user) path =
      (.ok (), s₁, files)) :
    main args c = some (0, c.withFiles files) := by
  rw [main_eq hargs, perform_setSetting hcommand, hload]
  simp only [setSetting_eq, hpath, writeSetting_eq, hwrite]
  rfl

/-! ## The value of an argument -/

theorem proper_settingValue (raw : String) : (settingValue raw).Proper := by
  rw [settingValue]
  cases hread : Json.ofText raw with
  | error f => exact trivial
  | ok v => exact Json.proper_of_ofChars hread

/-- The text of a value stands for the value. -/
theorem settingValue_compact {v : Json} (hp : v.Proper) (hi : v.Integral)
    (hd : v.depth ≤ Json.Draft.maxDepth) : settingValue v.compact = v := by
  have hread : Json.ofText v.compact = .ok v := by
    rw [Json.ofText, Json.compact, String.toList_ofList, ← Json.spreadChars_compact 0]
    exact Json.ofChars_spread hp hi hd
  rw [settingValue, hread]
  rfl

/-! ## Settings that last -/

/-- The settings are loaded again from the same two paths. -/
theorem loadSettings_withFiles {p : Priority} {path : String} {value : Json} {s₁ : Store}
    {files : FileTree} (hwrite : s.write c.machine.files key value p path = (.ok (), s₁, files)) :
    loadSettings (c.withFiles files).machine i =
      Store.load files (configurationDirectory c.machine) (some (rootOf c.machine i)) := by
  have hroot : rootOf (c.withFiles files).machine i = rootOf c.machine i :=
    congrArg i.workspace.getD (Store.directory_of_write hwrite)
  rw [loadSettings, hroot]
  rfl

/-- When a setting was set, the settings can be loaded again with its value and no other change,
exactly when the value is not nested as deep as a text may be, and the directories that were made do
not bring another settings file to light. -/
theorem main_setSetting_remembers_iff (hargs : readArgs args = .ok i)
    (hcommand : i.command = .setSetting key raw user) (hload : loadSettings c.machine i = .ok s)
    (hrun : main args c = some (0, c')) (hvalue : (settingValue raw).Integral)
    (hlayer : ∀ l, s.layer? (layerOf user) = some l → Json.IntegralMembers l.values) :
    (∃ s', loadSettings c'.machine i = .ok s' ∧
      s.Remembers s' (layerOf user) key (settingValue raw)) ↔
    (settingValue raw).depth < Json.Draft.maxDepth ∧
      Settings.Store.Undisturbed c.machine.files c'.machine.files
        (configurationDirectory c.machine) (some (rootOf c.machine i)) (layerOf user) := by
  obtain ⟨s₀, path, s₁, files, hload₀, hpath, hwrite, rfl⟩ := main_setSetting hargs hcommand hrun
  cases hload.symm.trans hload₀
  rw [loadSettings_withFiles hwrite]
  exact Store.write_remembers_iff hload hpath hwrite (proper_settingValue raw) hvalue hlayer

/-- A console in an empty workspace, without a user. -/
def emptyConsole : Console :=
  .new ⟨⟨[("/w", .directory)], "/w"⟩, [], 0⟩ [] (fun _ _ => {}) []

theorem main_setSetting_remembers_one : ∃ c' s',
    main ["config", "set", "a", "1"] emptyConsole = some (0, c') ∧
      loadSettings c'.machine ⟨none, .setSetting "a" "1" false⟩ = .ok s' ∧
      Store.initial.Remembers s' .workspace "a" (.number (.int 1)) := by
  have hargs : readArgs ["config", "set", "a", "1"] =
      .ok ⟨none, .setSetting "a" "1" false⟩ := rfl
  have hload : loadSettings emptyConsole.machine ⟨none, .setSetting "a" "1" false⟩ =
      .ok Store.initial := rfl
  have hwrite : ∃ s₁ files, Store.initial.write emptyConsole.machine.files "a" (settingValue "1")
      .workspace "/w/.webby/settings.json" = (.ok (), s₁, files) := ⟨_, _, rfl⟩
  obtain ⟨s₁, files, hwrite⟩ := hwrite
  have hrun := main_of_write hargs rfl hload rfl hwrite
  have hvalue : settingValue "1" = .number (.int 1) :=
    settingValue_compact (v := .number (.int 1)) ⟨by decide, by decide⟩ rfl (by decide)
  have hnew (files : FileTree) : Settings.Store.Undisturbed emptyConsole.machine.files files none
      (some "/w") .workspace := by
    intro q hq path hpath
    cases q with
    | default => cases hpath
    | user => cases hpath
    | workspace => exact absurd rfl hq
  obtain ⟨s', hload', hremembers⟩ := (main_setSetting_remembers_iff hargs rfl hload hrun
    (by rw [hvalue]; rfl) nofun).mpr ⟨by rw [hvalue]; decide, hnew files⟩
  exact ⟨_, s', hrun, hload', hvalue ▸ hremembers⟩

/-- A value that is nested as deep as a text may be cannot be loaded again, nor can any other
setting. -/
theorem main_setSetting_of_deep (hargs : readArgs args = .ok i)
    (hcommand : i.command = .setSetting key raw user) (hload : loadSettings c.machine i = .ok s)
    (hrun : main args c = some (0, c')) (hvalue : (settingValue raw).Integral)
    (hlayer : ∀ l, s.layer? (layerOf user) = some l → Json.IntegralMembers l.values)
    (hdepth : Json.Draft.maxDepth ≤ (settingValue raw).depth) :
    ∃ e, loadSettings c'.machine i = .error e := by
  obtain ⟨s₀, path, s₁, files, hload₀, hpath, hwrite, rfl⟩ := main_setSetting hargs hcommand hrun
  cases hload.symm.trans hload₀
  rw [loadSettings_withFiles hwrite]
  cases hreload : Store.load files (configurationDirectory c.machine)
      (some (rootOf c.machine i)) with
  | error e => exact ⟨e, rfl⟩
  | ok s' =>
    have hshallow := Store.depth_of_load (Store.loaded_of_load hload) hpath hwrite
      (proper_settingValue raw) hvalue hlayer (Store.loaded_of_load hreload)
    exact absurd hdepth (Nat.not_le.mpr hshallow)

end AnalyzerClient.CommandLine
