import AnalyzerClient.Proofs.Runnable.Journal
import AnalyzerClient.Runnable.Launch
import Mathlib.Control.Monad.Basic

/-!
# What debugging asks for

The debugger is chosen before anything is built, one build is run, and the debugger is called once
when the build's report names an executable. What is asked of a workbench to debug a runnable, and
what comes of it, follows from what the workbench answers (`Launcher.debugRunnable_debugs`): how the
build is run follows from the runnable (`Launcher.planOf`), how the debugger is called from the
settings (`Debugger.Starts`).
-/

namespace AnalyzerClient

open JournalM (perform perform_bind perform_noting perform_pure perform_showStatuses Forgets)

variable {σ : Type}

namespace Debugger

theorem Runtime.ofName?_eq_some_iff {name : String} {runtime : Runtime} :
    ofName? name = some runtime ↔ runtime.name = name := by
  constructor
  · intro h
    unfold ofName? at h
    split at h <;> cases h <;> rfl
  · rintro rfl
    cases runtime <;> rfl

theorem ofSettings_of_name {settings : Settings.DebugSettings} {runtime : Runtime}
    (h : runtime.name = settings.runtime) : ofSettings settings = .ok runtime := by
  rw [ofSettings, Runtime.ofName?_eq_some_iff.mpr h]

theorem ofSettings_of_ne {settings : Settings.DebugSettings}
    (h : ∀ runtime : Runtime, runtime.name ≠ settings.runtime) :
    ofSettings settings = .error (.invalidRuntime settings.runtime) := by
  rw [ofSettings]
  cases hname : Runtime.ofName? settings.runtime with
  | none => rfl
  | some runtime => exact absurd (Runtime.ofName?_eq_some_iff.mp hname) (h runtime)

/-- The names of the debuggers. -/
def names : List String := ["termdebug", "vimspector", "nvim-dap"]

theorem mem_names_iff {name : String} :
    name ∈ names ↔ ∃ runtime : Runtime, runtime.name = name := by
  simp only [names, List.mem_cons, List.not_mem_nil, or_false]
  constructor
  · rintro (rfl | rfl | rfl)
    exacts [⟨.termdebug, rfl⟩, ⟨.vimspector, rfl⟩, ⟨.nvimDap, rfl⟩]
  · rintro ⟨runtime, rfl⟩
    cases runtime <;> simp [Runtime.name]

/-- The call of the configured debugger for an executable with arguments. -/
inductive Starts (settings : Settings.DebugSettings) (path args : String) : Call → Prop
  | termdebug : settings.runtime = "termdebug" →
      Starts settings path args (.command ("TermdebugCommand " ++ path ++ " " ++ args))
  | vimspector : settings.runtime = "vimspector" →
      Starts settings path args (.function "vimspector#LaunchWithSettings" [.mkObject
        [("configuration", .string settings.vimspectorConfiguration),
          ("Executable", .string path), ("Args", .string args)]])
  | nvimDap : settings.runtime = "nvim-dap" →
      Starts settings path args (.command (renderTemplate settings.nvimDapTemplate ⟨path, args⟩))

theorem Starts.exists_runtime {settings : Settings.DebugSettings} {path args : String} {call : Call}
    (h : Starts settings path args call) : ∃ runtime : Runtime, runtime.name = settings.runtime ∧
      runtime.call settings ⟨path, args⟩ = call := by
  cases h with
  | termdebug hname => exact ⟨.termdebug, hname.symm, rfl⟩
  | vimspector hname => exact ⟨.vimspector, hname.symm, rfl⟩
  | nvimDap hname => exact ⟨.nvimDap, hname.symm, rfl⟩

end Debugger

/-- What a search that finds no executable is to the user. -/
def LaunchError.ofScan : ScanFailure → LaunchError
  | .notFound => .executableNotFound
  | .unreadable e => .unreadable e

namespace Launcher

variable {l : Launcher} {w : Workbench (StateM σ)} {r : Runnable} {journal : List Asked}
variable {world built : σ} {report : ProgramRun} {runtime : Debugger.Runtime}

theorem executable_eq (filter : ArtifactFilter) (report : List UInt8) :
    executable filter report =
      (Scan.findExecutable filter report).outcome.mapError LaunchError.ofScan := by
  rw [executable]
  split <;> simp [*, Except.mapError, LaunchError.ofScan]

/-! ## The build -/

/-- The world behind a build's progress. -/
def shown (w : Workbench (StateM σ)) (report : ProgramRun) (built : σ) : σ :=
  (((progressOf report.stderr).1.forM w.showStatus).run built).2

/-- What is asked when a build runs. -/
def buildJournal (spec : ProcessSpec) (report : ProgramRun) : List Asked :=
  .build spec :: (progressOf report.stderr).1.map .status

theorem perform_build_error {shell : Terminal.Shell} {cause : OsError}
    (h : (w.build (buildSpec shell r)).run world = (.error cause, built)) :
    perform (build w.journaled shell r) journal world =
      ⟨.error (.spawn r.buildLine cause), journal ++ [.build (buildSpec shell r)], built⟩ := by
  have hbuild : w.journaled.build (buildSpec shell r) =
    (Asked.build (buildSpec shell r)).noting (w.build (buildSpec shell r)) := rfl
  rw [build, perform_bind, hbuild, perform_noting, h]
  rfl

theorem perform_build_ok {shell : Terminal.Shell}
    (h : (w.build (buildSpec shell r)).run world = (.ok report, built)) :
    perform (build w.journaled shell r) journal world =
      ⟨.ok report.stdout, journal ++ buildJournal (buildSpec shell r) report,
        shown w report built⟩ := by
  have hbuild : w.journaled.build (buildSpec shell r) =
    (Asked.build (buildSpec shell r)).noting (w.build (buildSpec shell r)) := rfl
  rw [build, perform_bind, hbuild, perform_noting, h]
  dsimp only
  rw [perform_bind, perform_showStatuses, perform_pure, buildJournal, shown, List.append_assoc]
  rfl

/-! ## The debugger -/

theorem perform_debugWith_of_unbuilt {cause : OsError}
    (h : (w.build (buildSpec l.shell r)).run world = (.error cause, built)) :
    perform (l.debugWith w.journaled runtime r) journal world =
      ⟨.error (.spawn r.buildLine cause), journal ++ [.build (buildSpec l.shell r)], built⟩ := by
  rw [debugWith, perform_bind, perform_build_error h]
  rfl

theorem perform_debugWith_of_unfound {failure : ScanFailure}
    (h : (w.build (buildSpec l.shell r)).run world = (.ok report, built))
    (hscan : (Scan.findExecutable (.ofTask r.task) report.stdout).outcome = .error failure) :
    perform (l.debugWith w.journaled runtime r) journal world =
      ⟨.error (.ofScan failure), journal ++ buildJournal (buildSpec l.shell r) report,
        shown w report built⟩ := by
  rw [debugWith, perform_bind, perform_build_ok h]
  dsimp only
  rw [executable_eq, hscan]
  rfl

theorem perform_debugWith_of_found {path : String} {call : Debugger.Call}
    {answer : Except Debugger.Error Unit} {answered : σ}
    (h : (w.build (buildSpec l.shell r)).run world = (.ok report, built))
    (hscan : (Scan.findExecutable (.ofTask r.task) report.stdout).outcome = .ok path)
    (hcall : runtime.call l.debug ⟨path, r.task.programArgs⟩ = call)
    (hanswer : (w.callDebugger call).run (shown w report built) = (answer, answered)) :
    perform (l.debugWith w.journaled runtime r) journal world =
      ⟨(answer.map fun _ => path).mapError .debugger,
        journal ++ buildJournal (buildSpec l.shell r) report ++ [.call call], answered⟩ := by
  have hnoting : w.journaled.callDebugger call =
    (Asked.call call).noting (w.callDebugger call) := rfl
  rw [debugWith, perform_bind, perform_build_ok h]
  dsimp only
  rw [executable_eq, hscan]
  dsimp only [Except.mapError]
  rw [hcall, perform_bind, hnoting, perform_noting, hanswer]
  cases answer <;> rfl

/-! ## The journal changes nothing -/

theorem forgets_build (w : Workbench (StateM σ)) (shell : Terminal.Shell) (r : Runnable) :
    Forgets (build w.journaled shell r) (build w shell r) := by
  refine .bind (.noting _ _) fun outcome => ?_
  cases outcome with
  | error cause => exact .pure _
  | ok report => exact .bind (.showStatuses w _) fun _ => .pure _

theorem forgets_debugWith (l : Launcher) (w : Workbench (StateM σ)) (runtime : Debugger.Runtime)
    (r : Runnable) : Forgets (l.debugWith w.journaled runtime r) (l.debugWith w runtime r) := by
  refine .bind (forgets_build w l.shell r) fun report => ?_
  cases report with
  | error e => exact .pure _
  | ok report =>
    dsimp only
    cases executable (.ofTask r.task) report with
    | error e => exact .pure _
    | ok path =>
      refine .bind (.noting _ _) fun answer => ?_
      cases answer <;> exact .pure _

theorem forgets_debugRunnable (l : Launcher) (w : Workbench (StateM σ)) (r : Runnable) :
    Forgets (l.debugRunnable w.journaled r) (l.debugRunnable w r) := by
  unfold debugRunnable
  cases Debugger.ofSettings l.debug with
  | error e => exact .pure _
  | ok runtime => exact forgets_debugWith l w runtime r

/-! ## The whole of it -/

/-- How a task is built, and which of the executables is debugged, with which arguments. -/
structure Plan where
  line : String
  environment : Dict String
  directory : String
  filter : ArtifactFilter
  args : String

/-- How a shell runs the build. -/
def Plan.spec (plan : Plan) (shell : Terminal.Shell) : ProcessSpec where
  program := shell.path
  args := [shell.commandFlag, plan.line]
  environment := plan.environment
  directory := some plan.directory

/-- The executable of a task of the build tool is found by the arguments of the build tool and has
the arguments of the task; that of any other program can be any, and has none. -/
def planOf : Task → Plan
  | .build task =>
    { line := " ".intercalate (task.overrideTool.getD "webby" :: task.debugTokens)
      environment := task.environment.getD []
      directory := task.directory
      filter := .ofArgs task.toolArgs
      args := " ".intercalate task.executableArgs }
  | .shell task =>
    { line := " ".intercalate (task.program :: task.args ++ ["--message-format=json"])
      environment := task.environment.getD []
      directory := task.directory
      filter := ⟨none, none⟩
      args := "" }

theorem buildSpec_eq (shell : Terminal.Shell) (r : Runnable) :
    buildSpec shell r = (planOf r.task).spec shell := by
  rw [buildSpec, Runnable.buildLine, Runnable.program, Runnable.environment, Runnable.directory]
  cases r.task <;> rfl

theorem buildLine_eq (r : Runnable) : r.buildLine = (planOf r.task).line := by
  rw [Runnable.buildLine, Runnable.program]
  cases r.task <;> rfl

theorem filter_eq (task : Task) : ArtifactFilter.ofTask task = (planOf task).filter := by
  cases task <;> rfl

theorem programArgs_eq (task : Task) : task.programArgs = (planOf task).args := by
  cases task <;> rfl

/-- What debugging a runnable asks for and what comes of it. -/
structure Debugs (l : Launcher) (w : Workbench (StateM σ)) (r : Runnable) (plan : Plan) (world : σ)
    (p : Performance σ (Except LaunchError String)) : Prop where
  /-- This is what happens without the journal, too. -/
  plain : (l.debugRunnable w r).run world = (p.result, p.world)
  /-- Nothing is built for a debugger that there is not. -/
  invalid : l.debug.runtime ∉ Debugger.names →
    p = ⟨.error (.debugger (.invalidRuntime l.debug.runtime)), [], world⟩
  unbuilt : l.debug.runtime ∈ Debugger.names → ∀ cause built,
    (w.build (plan.spec l.shell)).run world = (.error cause, built) →
    p = ⟨.error (.spawn plan.line cause), [.build (plan.spec l.shell)], built⟩
  unfound : l.debug.runtime ∈ Debugger.names → ∀ report built,
    (w.build (plan.spec l.shell)).run world = (.ok report, built) →
    ∀ failure, (Scan.findExecutable plan.filter report.stdout).outcome = .error failure →
    p = ⟨.error (.ofScan failure), buildJournal (plan.spec l.shell) report, shown w report built⟩
  /-- The debugger is called once, and its answer decides. -/
  found : ∀ report built, (w.build (plan.spec l.shell)).run world = (.ok report, built) →
    ∀ path, (Scan.findExecutable plan.filter report.stdout).outcome = .ok path →
    ∀ call, Debugger.Starts l.debug path plan.args call → ∀ answer answered,
    (w.callDebugger call).run (shown w report built) = (answer, answered) →
    p.journal = buildJournal (plan.spec l.shell) report ++ [.call call] ∧ p.world = answered ∧
      (p.result = .ok path ↔ answer = .ok ()) ∧
      ∀ e, answer = .error e → p.result = .error (.debugger e)

/-- Debugging from end to end. -/
theorem debugRunnable_debugs (l : Launcher) (w : Workbench (StateM σ)) (r : Runnable) (world : σ) :
    l.Debugs w r (planOf r.task) world (perform (l.debugRunnable w.journaled r) [] world) where
  plain := forgets_debugRunnable l w r [] world
  invalid h := by
    rw [debugRunnable, Debugger.ofSettings_of_ne fun runtime hruntime =>
      h (Debugger.mem_names_iff.mpr ⟨runtime, hruntime⟩)]
    rfl
  unbuilt := by
    intro hname cause built hbuild
    obtain ⟨runtime, hruntime⟩ := Debugger.mem_names_iff.mp hname
    rw [← buildSpec_eq] at hbuild ⊢
    rw [debugRunnable, Debugger.ofSettings_of_name hruntime, ← buildLine_eq]
    exact perform_debugWith_of_unbuilt hbuild
  unfound := by
    intro hname report built hbuild failure hscan
    obtain ⟨runtime, hruntime⟩ := Debugger.mem_names_iff.mp hname
    rw [← buildSpec_eq] at hbuild ⊢
    rw [← filter_eq] at hscan
    rw [debugRunnable, Debugger.ofSettings_of_name hruntime]
    exact perform_debugWith_of_unfound hbuild hscan
  found := by
    intro report built hbuild path hscan call hstarts answer answered hanswer
    obtain ⟨runtime, hruntime, hcall⟩ := hstarts.exists_runtime
    rw [← buildSpec_eq] at hbuild ⊢
    rw [← filter_eq] at hscan
    rw [← programArgs_eq] at hcall
    rw [debugRunnable, Debugger.ofSettings_of_name hruntime]
    dsimp only
    rw [perform_debugWith_of_found hbuild hscan hcall hanswer]
    refine ⟨rfl, rfl, ?_, ?_⟩
    · cases answer <;> simp [Except.map, Except.mapError]
    · rintro e rfl
      rfl

/-- The output of a build. -/
def buildRun : ProgramRun where
  stdout := Text.Utf8.encode
    "\x7b\"reason\":\"compiler-artifact\",\"executable\":\"/w/it\"\x7d\n"
  stderr := Text.Utf8.encode " done\n"

/-- A workbench with a build that works, and with a counter of messages. -/
def buildingWorkbench : Workbench (StateM Nat) where
  document := none
  showStatus _ := modify (· + 1)
  pick _ _ := pure none
  runnables _ := pure (.ok [])
  openTerminal _ := pure (.opens false)
  build _ := pure (.ok buildRun)
  callDebugger _ := pure (.ok ())

/-- A test with a variable and with arguments. -/
def builtTest : Runnable where
  label := "test it"
  location := none
  task := .build ⟨none, ["it", "-q"], ["test"], none, some [("K", "1")], "/w"⟩

theorem debugRunnable_debugs_test :
    perform (debugRunnable ⟨.standard, false, .initial⟩ buildingWorkbench.journaled builtTest)
        [] 0 =
      ⟨.ok "/w/it", [.build ⟨"/bin/sh", ["-c",
          "webby test --no-run --message-format=json -- 'it' -q"], [("K", "1")], some "/w"⟩,
        .status "done", .call (.command "TermdebugCommand /w/it it -q")], 1⟩ := by
  have hprogress : (progressOf buildRun.stderr).1 = ["done"] := by decide +kernel
  have hshown : shown buildingWorkbench buildRun 0 = 1 := by rw [shown, hprogress]; rfl
  have h := debugRunnable_debugs ⟨.standard, false, .initial⟩ buildingWorkbench builtTest 0
  obtain ⟨hjournal, hworld, hresult, -⟩ := h.found buildRun 0 rfl "/w/it" (by decide +kernel)
    _ (.termdebug rfl) (.ok ()) 1 (by rw [hshown]; rfl)
  rw [buildJournal, hprogress] at hjournal
  exact Performance.ext (hresult.mpr rfl) hjournal hworld

end Launcher

end AnalyzerClient
