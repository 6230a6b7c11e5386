import AnalyzerClient.Proofs.Runnable.Debugging
import AnalyzerClient.Runnable.Select

/-!
# How a runnable is chosen and launched

Three commands choose a runnable and launch it: the user picks one to run or to debug, or the first
test is run. They are one course of actions (`Launcher.selecting`) with two ways to choose and two
ways to launch. `Selects` says what the course asks of a workbench and what comes of it, whatever
the workbench answers: how the runnables are fetched (`Fetches`), how one is chosen (`Picks`,
`TakesTest`), and that nothing happens when none is.
-/

namespace AnalyzerClient

open JournalM (perform perform_bind perform_noting perform_pure perform_showStatuses Forgets)

variable {σ α β γ : Type}

/-! ## What is asked -/

/-- Whether runnables are asked for. -/
def Asked.isRequest : Asked → Bool
  | .runnables _ => true
  | _ => false

/-- Whether the user is asked to pick. -/
def Asked.isPick : Asked → Bool
  | .pick .. => true
  | _ => false

/-- Actions ask for no runnables and do not ask the user to pick. -/
def JournalM.Unasking (action : JournalM σ α) : Prop :=
  ∀ journal world, ∃ added, (perform action journal world).journal = journal ++ added ∧
    ∀ asked ∈ added, asked.isRequest = false ∧ asked.isPick = false

namespace JournalM.Unasking

theorem pure (a : α) : Unasking (Pure.pure a : JournalM σ α) :=
  fun journal _ => ⟨[], (List.append_nil journal).symm, nofun⟩

theorem noting {asked : Asked} (h : asked.isRequest = false ∧ asked.isPick = false)
    (action : StateM σ α) : Unasking (asked.noting action) := by
  intro journal world
  refine ⟨[asked], rfl, fun other hother => ?_⟩
  rw [List.mem_singleton.mp hother]
  exact h

theorem bind {action : JournalM σ α} {next : α → JournalM σ β} (h : Unasking action)
    (hnext : ∀ a, Unasking (next a)) : Unasking (action >>= next) := by
  intro journal world
  obtain ⟨added, hadded, hkind⟩ := h journal world
  obtain ⟨more, hmore, hkind'⟩ := hnext (perform action journal world).result
    (perform action journal world).journal (perform action journal world).world
  refine ⟨added ++ more, ?_, fun asked hasked => ?_⟩
  · rw [perform_bind]
    dsimp only
    rw [hmore, hadded, List.append_assoc]
  · exact (List.mem_append.mp hasked).elim (hkind asked) (hkind' asked)

theorem map (f : α → β) {action : JournalM σ α} (h : Unasking action) :
    Unasking (f <$> action) := by
  rw [map_eq_pure_bind]
  exact h.bind fun a => pure (f a)

theorem showStatuses (w : Workbench (StateM σ)) (texts : List String) :
    Unasking (texts.forM w.journaled.showStatus) := by
  intro journal world
  rw [perform_showStatuses]
  refine ⟨texts.map .status, rfl, fun asked hasked => ?_⟩
  obtain ⟨text, -, rfl⟩ := List.mem_map.mp hasked
  exact ⟨rfl, rfl⟩

end JournalM.Unasking

open JournalM (Unasking)

theorem JournalM.Forgets.map (f : α → β) {action : JournalM σ α} {plain : StateM σ α}
    (h : Forgets action plain) : Forgets (f <$> action) (f <$> plain) := by
  rw [map_eq_pure_bind, map_eq_pure_bind]
  exact h.bind fun a => .pure (f a)

namespace Launcher

variable {m : Type → Type} [Monad m]

/-! ## One course for three commands -/

/-- What a command gives without a launch, be it for an error, and how it launches a runnable. -/
structure Launching (m : Type → Type) (γ : Type) where
  idle : Except LaunchError Unit → γ
  launch : Runnable → m γ

/-- Running, from a slot. -/
def running (l : Launcher) (w : Workbench m) (slot : Terminal.Slot) :
    Launching m (Except LaunchError (Option Nat) × Terminal.Slot) where
  idle failure := (failure.map fun _ => none, slot)
  launch r := (fun (id, slot) => (id.map some, slot)) <$> (l.run w r).run slot

/-- Debugging. -/
def debugging (l : Launcher) (w : Workbench m) :
    Launching m (Except LaunchError (Option String)) where
  idle failure := failure.map fun _ => none
  launch r := (fun path => path.map some) <$> l.debugRunnable w r

/-- Fetches the runnables, chooses one and launches it. -/
def selecting (w : Workbench m) (choosing : List Runnable → m (Option Runnable))
    (L : Launching m γ) : m γ := do
  match ← fetchHere w with
  | .error e => return L.idle (.error e)
  | .ok rs =>
    match ← choosing rs with
    | none => return L.idle (.ok ())
    | some r => L.launch r

theorem run_lift_bind [LawfulMonad m] {s : Type} (action : m α) (next : α → StateT s m β)
    (state : s) :
    StateT.run ((liftM action : StateT s m α) >>= next) state =
      action >>= fun a => (next a).run state := by
  simp

theorem runChosen_run [LawfulMonad m] (l : Launcher) (w : Workbench m) (slot : Terminal.Slot)
    (chosen : Option Runnable) :
    (l.runChosen w chosen).run slot = match chosen with
      | none => pure ((l.running w slot).idle (.ok ()))
      | some r => (l.running w slot).launch r := by
  cases chosen with
  | none => rfl
  | some r => simp [runChosen, running]

theorem runSingle_eq [LawfulMonad m] (l : Launcher) (w : Workbench m) (slot : Terminal.Slot) :
    (l.runSingle w).run slot = selecting w (pick w) (l.running w slot) := by
  rw [runSingle, run_lift_bind, selecting]
  congr 1
  funext answer
  cases answer with
  | error e => rfl
  | ok rs =>
    dsimp only
    rw [run_lift_bind]
    simp only [runChosen_run]

theorem runTest_eq [LawfulMonad m] (l : Launcher) (w : Workbench m) (slot : Terminal.Slot) :
    (l.runTest w).run slot =
      selecting w (fun rs => pure (Runnable.firstTest? rs)) (l.running w slot) := by
  rw [runTest, run_lift_bind, selecting]
  congr 1
  funext answer
  cases answer with
  | error e => rfl
  | ok rs => simp only [runChosen_run, pure_bind]

theorem debugSingle_eq [LawfulMonad m] (l : Launcher) (w : Workbench m) :
    l.debugSingle w = selecting w (pick w) (l.debugging w) := by
  rw [debugSingle, selecting]
  congr 1
  funext answer
  cases answer with
  | error e => rfl
  | ok rs =>
    dsimp only
    congr 1
    funext chosen
    cases chosen with
    | none => rfl
    | some r => simp [debugChosen, debugging]

/-! ## Fetching -/

/-- What is asked to fetch the runnables, and the answer. -/
inductive Fetches (w : Workbench (StateM σ)) (world : σ) :
    List Asked → Except Protocol.Error (List Runnable) → σ → Prop
  | nowhere : w.document = none → Fetches w world [] (.ok []) world
  | foreign {d} : w.document = some d → d.languageId ≠ Server.languageId →
      Fetches w world [] (.ok []) world
  | answered {d shown answer fetched} : w.document = some d → d.languageId = Server.languageId →
      (w.showStatus fetchStatus).run world = ((), shown) →
      (w.runnables (paramsAt d)).run shown = (answer, fetched) →
      Fetches w world [.status fetchStatus, .runnables (paramsAt d)] answer fetched

/-- The requests for runnables: one for a document of the server's language, and none otherwise. -/
def requestsFor (document : Option DocumentPosition) : List Asked :=
  match document with
  | none => []
  | some d => if d.languageId = Server.languageId then [.runnables (paramsAt d)] else []

theorem perform_fetchHere (w : Workbench (StateM σ)) (world : σ) :
    ∃ asked answer fetched, Fetches w world asked answer fetched ∧
      asked.filter Asked.isRequest = requestsFor w.document ∧
      asked.filter Asked.isPick = [] ∧
      ∀ journal, perform (fetchHere w.journaled) journal world =
        ⟨answer.mapError .protocol, journal ++ asked, fetched⟩ := by
  cases hd : w.document with
  | none =>
    refine ⟨[], .ok [], world, .nowhere hd, rfl, rfl, fun journal => ?_⟩
    have hnone : w.journaled.document = none := hd
    rw [fetchHere, hnone, List.append_nil]
    rfl
  | some d =>
    have hsome : w.journaled.document = some d := hd
    by_cases hlanguage : d.languageId = Server.languageId
    · refine ⟨_, _, _, .answered hd hlanguage rfl rfl, ?_, rfl, fun journal => ?_⟩
      · rw [requestsFor, if_pos hlanguage]
        rfl
      · rw [fetchHere, hsome]
        simp only [fetch, hlanguage, bne_self_eq_false, Bool.false_eq_true, if_false]
        rw [List.append_cons]
        rfl
    · refine ⟨[], .ok [], world, .foreign hd hlanguage, ?_, rfl, fun journal => ?_⟩
      · rw [requestsFor, if_neg hlanguage]
        rfl
      · rw [fetchHere, hsome, List.append_nil]
        simp only [fetch, bne_iff_ne.mpr hlanguage, if_true]
        rfl

/-! ## Choosing -/

/-- What the user is asked to pick a runnable, and what is picked. -/
inductive Picks (w : Workbench (StateM σ)) (rs : List Runnable) (world : σ) :
    List Asked → Option Runnable → σ → Prop
  | empty : rs = [] → Picks w rs world [] none world
  | cancelled {after} : rs ≠ [] →
      (w.pick pickTitle (rs.map (·.label))).run world = (none, after) →
      Picks w rs world [.pick pickTitle (rs.map (·.label))] none after
  | outside {i after} : rs ≠ [] → rs.length ≤ i →
      (w.pick pickTitle (rs.map (·.label))).run world = (some i, after) →
      Picks w rs world [.pick pickTitle (rs.map (·.label))] none after
  | inside {i after} (hi : i < rs.length) :
      (w.pick pickTitle (rs.map (·.label))).run world = (some i, after) →
      Picks w rs world [.pick pickTitle (rs.map (·.label))] (some rs[i]) after

/-- Nothing is asked to take the first runnable whose label begins with the mark of tests. -/
inductive TakesTest (rs : List Runnable) (world : σ) : List Asked → Option Runnable → σ → Prop
  | without : (∀ r ∈ rs, ¬ "test ".toList <+: r.label.toList) → TakesTest rs world [] none world
  | first {before r behind} : rs = before ++ r :: behind →
      (∀ r' ∈ before, ¬ "test ".toList <+: r'.label.toList) →
      "test ".toList <+: r.label.toList → TakesTest rs world [] (some r) world

/-- What choosing a runnable asks and gives is related by `R`. -/
def Chooses (R : List Runnable → σ → List Asked → Option Runnable → σ → Prop)
    (choosing : List Runnable → JournalM σ (Option Runnable)) : Prop :=
  ∀ rs world, ∃ shown chosen after, R rs world shown chosen after ∧
    shown.filter Asked.isRequest = [] ∧ shown.filter Asked.isPick = shown ∧
    ∀ journal, perform (choosing rs) journal world = ⟨chosen, journal ++ shown, after⟩

theorem chooses_pick (w : Workbench (StateM σ)) : Chooses (Picks w) (pick w.journaled) := by
  intro rs world
  by_cases hrs : rs = []
  · refine ⟨[], none, world, .empty hrs, rfl, rfl, fun journal => ?_⟩
    rw [hrs, List.append_nil]
    rfl
  · have hperform (journal : List Asked) : perform (pick w.journaled rs) journal world =
        ⟨((w.pick pickTitle (rs.map (·.label))).run world).1.bind (rs[·]?),
          journal ++ [.pick pickTitle (rs.map (·.label))],
          ((w.pick pickTitle (rs.map (·.label))).run world).2⟩ := by
      rw [pick, List.isEmpty_eq_false_iff.mpr hrs]
      rfl
    cases hpick : (w.pick pickTitle (rs.map (·.label))).run world with
    | mk answer after =>
      simp only [hpick] at hperform
      cases answer with
      | none => exact ⟨_, none, after, .cancelled hrs hpick, rfl, rfl, hperform⟩
      | some i =>
        by_cases hi : i < rs.length
        · refine ⟨_, some rs[i], after, .inside hi hpick, rfl, rfl, fun journal => ?_⟩
          rw [hperform, Option.bind_some, List.getElem?_eq_getElem hi]
        · have hlength : rs.length ≤ i := Nat.le_of_not_lt hi
          refine ⟨_, none, after, .outside hrs hlength hpick, rfl, rfl, fun journal => ?_⟩
          rw [hperform, Option.bind_some, List.getElem?_eq_none hlength]

theorem isTest_iff {r : Runnable} : r.isTest = true ↔ "test ".toList <+: r.label.toList :=
  List.isPrefixOf_iff_prefix

theorem chooses_test : Chooses (σ := σ) TakesTest (fun rs => pure (Runnable.firstTest? rs)) := by
  intro rs world
  refine ⟨[], Runnable.firstTest? rs, world, ?_, rfl, rfl, fun journal => ?_⟩
  · rw [Runnable.firstTest?]
    cases hfind : rs.find? Runnable.isTest with
    | none =>
      refine .without fun r hr => ?_
      rw [← isTest_iff]
      exact List.find?_eq_none.mp hfind r hr
    | some r =>
      obtain ⟨htest, before, behind, hrs, hbefore⟩ := List.find?_eq_some_iff_append.mp hfind
      refine .first hrs (fun r' hr' => ?_) (isTest_iff.mp htest)
      rw [← isTest_iff, Bool.not_eq_true, ← Bool.not_eq_true']
      exact hbefore r' hr'
  · rw [List.append_nil]
    rfl

/-! ## Launching -/

/-- The result of a run and the slot behind it, once the terminal was asked for. -/
def typed (l : Launcher) (r : Runnable) (slot : Terminal.Slot) (opening : Terminal.Opening) :
    Except LaunchError Nat × Terminal.Slot :=
  match slot.replace (terminalOptions r) opening with
  | (.error e, slot) => (.error (.terminal e), slot)
  | (.ok id, slot) =>
    match slot.typeCommand r.commandLine l.startInsert with
    | (some (.error e), slot) => (.error (.terminal e), slot)
    | (_, slot) => (.ok id, slot)

/-- A run asks for one terminal, and nothing else. -/
theorem run_run [LawfulMonad m] (l : Launcher) (w : Workbench m) (r : Runnable)
    (slot : Terminal.Slot) :
    (l.run w r).run slot = l.typed r slot <$> w.openTerminal (terminalOptions r) := by
  simp only [run, StateT.run_bind, StateT.run_modify, StateT.run_monadLift, StateT.run_get,
    StateT.run_set, bind_assoc, pure_bind, monadLift_self, map_eq_pure_bind]
  refine congrArg _ (funext fun opening => ?_)
  rw [typed, Terminal.Slot.replace]
  cases (slot.clear.create (terminalOptions r) opening) with
  | mk created opened =>
    cases created with
    | error e => rfl
    | ok id =>
      simp only [StateT.run_bind, StateT.run_set, pure_bind]
      cases opened.typeCommand r.commandLine l.startInsert with
      | mk typed after =>
        cases typed with
        | none => rfl
        | some outcome => cases outcome <;> rfl

theorem forgets_running (l : Launcher) (w : Workbench (StateM σ)) (slot : Terminal.Slot)
    (r : Runnable) :
    Forgets ((l.running w.journaled slot).launch r) ((l.running w slot).launch r) := by
  refine .map _ ?_
  rw [run_run, run_run]
  exact .map _ (.noting _ _)

theorem unasking_running (l : Launcher) (w : Workbench (StateM σ)) (slot : Terminal.Slot)
    (r : Runnable) : Unasking ((l.running w.journaled slot).launch r) := by
  refine .map _ ?_
  rw [run_run]
  exact .map _ (.noting ⟨rfl, rfl⟩ _)

theorem forgets_debugging (l : Launcher) (w : Workbench (StateM σ)) (r : Runnable) :
    Forgets ((l.debugging w.journaled).launch r) ((l.debugging w).launch r) :=
  .map _ (forgets_debugRunnable l w r)

theorem unasking_build (w : Workbench (StateM σ)) (shell : Terminal.Shell) (r : Runnable) :
    Unasking (build w.journaled shell r) := by
  refine .bind (.noting ⟨rfl, rfl⟩ _) fun outcome => ?_
  cases outcome with
  | error cause => exact .pure _
  | ok report => exact .bind (.showStatuses w _) fun _ => .pure _

theorem unasking_debugging (l : Launcher) (w : Workbench (StateM σ)) (r : Runnable) :
    Unasking ((l.debugging w.journaled).launch r) := by
  refine .map _ ?_
  rw [debugRunnable]
  cases Debugger.ofSettings l.debug with
  | error e => exact .pure _
  | ok runtime =>
    refine .bind (unasking_build w l.shell r) fun report => ?_
    cases report with
    | error e => exact .pure _
    | ok report =>
      dsimp only
      cases executable (.ofTask r.task) report with
      | error e => exact .pure _
      | ok path =>
        refine .bind (.noting ⟨rfl, rfl⟩ _) fun answer => ?_
        cases answer <;> exact .pure _

/-! ## The whole course -/

/-- What choosing and launching a runnable asks for, and what comes of it. -/
structure Selects (w : Workbench (StateM σ))
    (R : List Runnable → σ → List Asked → Option Runnable → σ → Prop)
    (L : Launching (JournalM σ) γ) (world : σ) (p : Performance σ γ) : Prop where
  requests : p.journal.filter Asked.isRequest = requestsFor w.document
  /-- An error of the server ends the course, and so does it when nothing is chosen: nothing more
  is asked. Otherwise the rest of the course is the launch of what was chosen. -/
  course : ∃ asked answer fetched, Fetches w world asked answer fetched ∧
    match answer with
    | .error e => p = ⟨L.idle (.error (.protocol e)), asked, fetched⟩
    | .ok rs => ∃ shown chosen after, R rs fetched shown chosen after ∧
      p.journal.filter Asked.isPick = shown ∧
      match chosen with
      | none => p = ⟨L.idle (.ok ()), asked ++ shown, after⟩
      | some r => p = perform (L.launch r) (asked ++ shown) after

theorem filter_eq_nil_of_added {kind : Asked → Bool} {added : List Asked}
    (h : ∀ asked ∈ added, kind asked = false) : added.filter kind = [] :=
  List.filter_eq_nil_iff.mpr fun asked hasked => by
    rw [h asked hasked]
    exact Bool.false_ne_true

theorem selects_selecting {w : Workbench (StateM σ)}
    {R : List Runnable → σ → List Asked → Option Runnable → σ → Prop}
    {choosing : List Runnable → JournalM σ (Option Runnable)} {L : Launching (JournalM σ) γ}
    (hchoosing : Chooses R choosing) (hlaunch : ∀ r, Unasking (L.launch r)) (world : σ) :
    Selects w R L world (perform (selecting w.journaled choosing L) [] world) := by
  obtain ⟨asked, answer, fetched, hfetches, hrequests, hpicks, hfetch⟩ := perform_fetchHere w world
  rw [selecting, perform_bind, hfetch]
  cases answer with
  | error e => exact ⟨hrequests, asked, _, fetched, hfetches, rfl⟩
  | ok rs =>
    obtain ⟨shown, chosen, after, hR, hnone, hshown, hchoose⟩ := hchoosing rs fetched
    have hchosen : perform (choosing rs) asked fetched = ⟨chosen, asked ++ shown, after⟩ :=
      hchoose asked
    dsimp only [Except.mapError]
    rw [List.nil_append, perform_bind, hchosen]
    cases chosen with
    | none =>
      refine ⟨?_, asked, _, fetched, hfetches, shown, none, after, hR, ?_, rfl⟩
      · rw [perform_pure, List.filter_append, hrequests, hnone, List.append_nil]
      · rw [perform_pure, List.filter_append, hpicks, hshown, List.nil_append]
    | some r =>
      obtain ⟨added, hadded, hkind⟩ := hlaunch r (asked ++ shown) after
      refine ⟨?_, asked, _, fetched, hfetches, shown, some r, after, hR, ?_, rfl⟩
      · rw [hadded, List.filter_append, List.filter_append, hrequests, hnone,
          filter_eq_nil_of_added fun a ha => (hkind a ha).1, List.append_nil, List.append_nil]
      · rw [hadded, List.filter_append, List.filter_append, hpicks, hshown,
          filter_eq_nil_of_added fun a ha => (hkind a ha).2, List.append_nil, List.nil_append]

theorem forgets_fetchHere (w : Workbench (StateM σ)) :
    Forgets (fetchHere w.journaled) (fetchHere w) := by
  unfold fetchHere
  have hdocument : w.journaled.document = w.document := rfl
  rw [hdocument]
  cases w.document with
  | none => exact .pure _
  | some d =>
    dsimp only [fetch]
    split
    · exact .pure _
    · exact .bind (.noting _ _) fun _ => .bind (.noting _ _) fun _ => .pure _

theorem forgets_pick (w : Workbench (StateM σ)) (rs : List Runnable) :
    Forgets (pick w.journaled rs) (pick w rs) := by
  unfold pick
  split
  · exact .pure _
  · exact .bind (.noting _ _) fun _ => .pure _

theorem forgets_selecting {w : Workbench (StateM σ)}
    {choosing : List Runnable → JournalM σ (Option Runnable)}
    {choosing' : List Runnable → StateM σ (Option Runnable)} {L : Launching (JournalM σ) γ}
    {L' : Launching (StateM σ) γ} (hchoosing : ∀ rs, Forgets (choosing rs) (choosing' rs))
    (hidle : L.idle = L'.idle) (hlaunch : ∀ r, Forgets (L.launch r) (L'.launch r)) :
    Forgets (selecting w.journaled choosing L) (selecting w choosing' L') := by
  refine .bind (forgets_fetchHere w) fun answer => ?_
  cases answer with
  | error e =>
    rw [hidle]
    exact .pure _
  | ok rs =>
    refine .bind (hchoosing rs) fun chosen => ?_
    cases chosen with
    | none =>
      rw [hidle]
      exact .pure _
    | some r => exact hlaunch r

/-- What is chosen is launched, once, and nothing is launched otherwise, with all three commands and
whatever the workbench answers. The journal changes nothing. -/
theorem commands_select (l : Launcher) (w : Workbench (StateM σ)) (slot : Terminal.Slot)
    (world : σ) :
    let picked := perform ((l.runSingle w.journaled).run slot) [] world
    let tested := perform ((l.runTest w.journaled).run slot) [] world
    let debugged := perform (l.debugSingle w.journaled) [] world
    Selects w (Picks w) (l.running w.journaled slot) world picked ∧
    Selects w TakesTest (l.running w.journaled slot) world tested ∧
    Selects w (Picks w) (l.debugging w.journaled) world debugged ∧
    ((l.runSingle w).run slot).run world = (picked.result, picked.world) ∧
    ((l.runTest w).run slot).run world = (tested.result, tested.world) ∧
    (l.debugSingle w).run world = (debugged.result, debugged.world) := by
  simp only [runSingle_eq, runTest_eq, debugSingle_eq]
  refine ⟨?_, ?_, ?_, ?_, ?_, ?_⟩
  · exact selects_selecting (chooses_pick w) (unasking_running l w slot) world
  · exact selects_selecting chooses_test (unasking_running l w slot) world
  · exact selects_selecting (chooses_pick w) (unasking_debugging l w) world
  · exact forgets_selecting (forgets_pick w) rfl (forgets_running l w slot) [] world
  · exact forgets_selecting (fun _ => .pure _) rfl (forgets_running l w slot) [] world
  · exact forgets_selecting (forgets_pick w) rfl (forgets_debugging l w) [] world

end Launcher

end AnalyzerClient
