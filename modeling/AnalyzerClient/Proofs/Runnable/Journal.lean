import AnalyzerClient.Runnable.Launch

/-!
# What a workbench is asked

A journaled workbench notes everything that is asked of it before it passes it on, so that what is
asked, and in which order, can be read off when actions are run with it (`JournalM.perform`).
-/

namespace AnalyzerClient

variable {σ α β : Type}

/-- Something that is asked of a workbench. -/
inductive Asked where
  | status (text : String)
  | pick (title : String) (items : List String)
  | runnables (params : Protocol.RunnablesParams)
  | terminal (options : Terminal.Options)
  | build (spec : ProcessSpec)
  | call (call : Debugger.Call)

/-- Actions in a world of states `σ`, with a journal. -/
abbrev JournalM (σ : Type) := StateT (List Asked) (StateM σ)

/-- What comes of actions that are run: their result, the journal, and the world behind them. -/
@[ext]
structure Performance (σ α : Type) where
  result : α
  journal : List Asked
  world : σ

/-- Runs actions. -/
def JournalM.perform (action : JournalM σ α) (journal : List Asked) (world : σ) :
    Performance σ α :=
  let ((result, journal), world) := (action.run journal).run world
  ⟨result, journal, world⟩

/-- Notes what is asked, and then asks it. -/
def Asked.noting (asked : Asked) (action : StateM σ α) : JournalM σ α := do
  modify (· ++ [asked])
  action

/-- A workbench with a journal. -/
def Workbench.journaled (w : Workbench (StateM σ)) : Workbench (JournalM σ) where
  document := w.document
  showStatus text := (Asked.status text).noting (w.showStatus text)
  pick title items := (Asked.pick title items).noting (w.pick title items)
  runnables params := (Asked.runnables params).noting (w.runnables params)
  openTerminal options := (Asked.terminal options).noting (w.openTerminal options)
  build spec := (Asked.build spec).noting (w.build spec)
  callDebugger call := (Asked.call call).noting (w.callDebugger call)

namespace JournalM

variable (journal : List Asked) (world : σ)

theorem perform_pure (a : α) :
    perform (pure a : JournalM σ α) journal world = ⟨a, journal, world⟩ := rfl

theorem perform_bind (action : JournalM σ α) (next : α → JournalM σ β) :
    perform (action >>= next) journal world =
      let p := perform action journal world
      perform (next p.result) p.journal p.world := rfl

theorem perform_noting (asked : Asked) (action : StateM σ α) :
    perform (asked.noting action) journal world =
      ⟨(action.run world).1, journal ++ [asked], (action.run world).2⟩ := rfl

theorem perform_showStatuses (w : Workbench (StateM σ)) (texts : List String) :
    perform (texts.forM w.journaled.showStatus) journal world =
      ⟨(), journal ++ texts.map .status, ((texts.forM w.showStatus).run world).2⟩ := by
  induction texts generalizing journal world with
  | nil => rw [List.map_nil, List.append_nil]; rfl
  | cons text texts ih =>
    have hshow : w.journaled.showStatus text = (Asked.status text).noting (w.showStatus text) := rfl
    simp only [List.forM_eq_forM] at ih ⊢
    rw [List.forM_cons, List.forM_cons, perform_bind, hshow, perform_noting, ih, List.map_cons,
      List.append_assoc]
    rfl

end JournalM

/-- With the journal forgotten, actions are these. -/
def JournalM.Forgets (action : JournalM σ α) (plain : StateM σ α) : Prop :=
  ∀ journal world, plain.run world =
    ((action.perform journal world).result, (action.perform journal world).world)

namespace JournalM.Forgets

theorem pure (a : α) : Forgets (Pure.pure a : JournalM σ α) (Pure.pure a) := fun _ _ => rfl

theorem noting (asked : Asked) (action : StateM σ α) : Forgets (asked.noting action) action :=
  fun _ _ => rfl

theorem bind {action : JournalM σ α} {plain : StateM σ α} {next : α → JournalM σ β}
    {plainNext : α → StateM σ β} (h : Forgets action plain)
    (hnext : ∀ a, Forgets (next a) (plainNext a)) :
    Forgets (action >>= next) (plain >>= plainNext) := by
  intro journal world
  rw [StateT.run_bind, h journal world, perform_bind]
  exact hnext _ _ _

theorem showStatuses (w : Workbench (StateM σ)) (texts : List String) :
    Forgets (texts.forM w.journaled.showStatus) (texts.forM w.showStatus) := by
  intro journal world
  rw [perform_showStatuses]
  rfl

end JournalM.Forgets

end AnalyzerClient
