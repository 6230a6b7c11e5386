import AnalyzerClient.Proofs.Client.Newcomer

/-!
# Stops and what follows them

From the beginning of a stop on, every reader that left its loop finds that the end of its server
was asked for, and tells of no crash, unless it had found before that nobody asked for it. `Parting`
says how far the stop got; when it came to its end, the client has no transport, and it told once
that the server stopped (`Span.departure`).
-/

namespace AnalyzerClient.Traffic

variable {s₀ s s' : Traffic} {a : Action} {actions : List Action} {i : Nat}

/-- Whether a reader found that nobody asked for the end of its server, and is to say so. -/
def ReaderStage.accuses : ReaderStage → Bool
  | .condemned _ | .failed _ => true
  | _ => false

theorem ReaderStep.expected {c c' : Client} {st st' : Stream} {action : ReaderAction}
    {parcels : List Parcel} (h : ReaderStep i c st action c' st' parcels)
    (hexpects : c.expectsEnd = true) (hst : st.stage.accuses = false) (t : Nat) :
    st'.stage.accuses = false ∧ (Action.reader i t action).isFailure = false ∧
      (Action.reader i t action).tidings? = none := by
  cases h with
  | condemn _ hunexpected => exact absurd hexpects hunexpected
  | fail hstage | tell hstage => rw [hstage] at hst; cases hst
  | @read _ _ _ answer => cases answer <;> exact ⟨rfl, rfl, rfl⟩
  | answer | answerFails | leave | breakDown | close | expect | vanish => exact ⟨rfl, rfl, rfl⟩

/-- Readers that find that the end of their servers was asked for count none as failed. -/
theorem Step.calm (h : Step s a s') (hexpects : s.client.expectsEnd = true)
    (hcalm : ∀ i, (s.stageOf i).accuses = false) :
    (∀ i, (s'.stageOf i).accuses = false) ∧ a.isFailure = false ∧ a.tidings? ≠ some .crashed := by
  by_cases hreader : ∃ i t action, a = .reader i t action
  · obtain ⟨i, t, action, rfl⟩ := hreader
    obtain ⟨-, st, st', c, parcels, hst, hst', hstep⟩ := h.reader_step
    have hbefore := hcalm i
    rw [stageOf_eq hst] at hbefore
    obtain ⟨hafter, hfailure, hnone⟩ := hstep.expected hexpects hbefore t
    refine ⟨fun j => ?_, hfailure, by rw [hnone]; nofun⟩
    by_cases hij : i = j
    · rw [← hij, stageOf_eq hst', hafter]
    · rw [h.stageOf_of_other fun _ _ he => hij (by cases he; rfl), hcalm]
  · refine ⟨fun i => ?_, ?_⟩
    · rw [h.stageOf_of_other fun t action he => hreader ⟨i, t, action, he⟩, hcalm]
    · cases a with
      | reader i t action => exact absurd ⟨i, t, action, rfl⟩ hreader
      | owner action => cases action <;> exact ⟨rfl, nofun⟩
      | _ => exact ⟨rfl, nofun⟩

/-- Whether a stop is under way that has not let go of the server. -/
def Owner.isStopping : Owner → Bool
  | .stopping | .parting _ | .parted | .leaving => true
  | _ => false

/-- How far a stop got, with the state of the client and what was told of the stop. -/
inductive Parting (actions : List Action) (s : Traffic) : Prop
  | stopping (owner : s.owner.isStopping = true) (state : s.client.state = .shuttingDown)
      (told : tellings actions .stopped = 0)
  | detached (owner : s.owner = .detached) (state : s.client.state = .shuttingDown)
      (transport : s.client.transport = none) (told : tellings actions .stopped = 0)
  | halted (owner : s.owner = .halted) (state : s.client.state = .stopped)
      (transport : s.client.transport = none) (told : tellings actions .stopped = 0)
  | stopped (owner : s.owner = .idle) (state : s.client.state = .stopped)
      (transport : s.client.transport = none) (told : tellings actions .stopped = 1)
  /-- The owner did not wait for the end of the stop. -/
  | givenUp (owner : s.owner = .idle) (abandoned : .owner .abandon ∈ actions)
      (state : s.client.state = .shuttingDown) (told : tellings actions .stopped = 0)

namespace Parting

theorem expectsEnd_eq (H : Parting actions s) : s.client.expectsEnd = true := by
  cases H with
  | stopping _ hc | detached _ hc | halted _ hc | stopped _ hc | givenUp _ _ hc =>
    rw [Client.expectsEnd, hc]; rfl

theorem other (H : Parting actions s) (h : Step s a s') (ha : ∀ action, a ≠ .owner action)
    (hcalm : a.isFailure = false) (hcrashed : a.tidings? ≠ some .crashed) :
    Parting (actions ++ [a]) s' := by
  obtain ⟨howner, hstate⟩ := h.of_other ha
  have hcount : tellings (actions ++ [a]) .stopped = tellings actions .stopped := by
    rw [tellings_concat, (tidings?_of_other ha).resolve_right hcrashed]; rfl
  have htransport := transport_step h (ha _) (ha _)
  rw [hcalm] at hstate
  cases H with
  | stopping hwhere hc htold =>
    exact .stopping (howner ▸ hwhere) (hstate.trans hc) (hcount.trans htold)
  | detached hwhere hc hnone htold =>
    exact .detached (howner.trans hwhere) (hstate.trans hc) (htransport.trans hnone)
      (hcount.trans htold)
  | halted hwhere hc hnone htold =>
    exact .halted (howner.trans hwhere) (hstate.trans hc) (htransport.trans hnone)
      (hcount.trans htold)
  | stopped hwhere hc hnone htold =>
    exact .stopped (howner.trans hwhere) (hstate.trans hc) (htransport.trans hnone)
      (hcount.trans htold)
  | givenUp hwhere hgave hc htold =>
    exact .givenUp (howner.trans hwhere) (List.mem_append_left _ hgave) (hstate.trans hc)
      (hcount.trans htold)

theorem owner {action : OwnerAction} (H : Parting actions s) (h : OwnerStep s action s')
    (hcall : (Action.owner action).isCall = false) :
    Parting (actions ++ [.owner action]) s' := by
  have hstarts := h.startsAt
  have hstate := h.does.state
  have told {n : Nat} (hn : tellings actions .stopped = n)
      (htidings : (Action.owner action).tidings? = none) :
      tellings (actions ++ [.owner action]) .stopped = n := by
    rw [tellings_concat, htidings, hn]; rfl
  cases H with
  | stopped hidle | givenUp hidle => rw [h.isCall_of_idle hidle] at hcall; cases hcall
  | detached hwhere hc hnone htold =>
    rw [hwhere] at hstarts
    cases h with
    | halt => exact .halted rfl rfl hnone (told htold rfl)
    | _ => cases hstarts
  | halted hwhere hc hnone htold =>
    rw [hwhere] at hstarts
    cases h with
    | tellStopped => exact .stopped rfl hc hnone (by rw [tellings_concat, htold]; rfl)
    | _ => cases hstarts
  | stopping hwhere hc htold =>
    cases h with
    | beginStart | beginStop => cases hcall
    | part | skip | hearGoodbye | sayExit | exitFails =>
      exact .stopping rfl (hstate.trans hc) (told htold rfl)
    | detach => exact .detached rfl hc rfl (told htold rfl)
    | abandon =>
      exact .givenUp rfl (List.mem_append_right _ (List.mem_singleton_self _)) hc (told htold rfl)
    | fail howner =>
      rcases howner with howner | ⟨k, howner, -⟩ <;> rw [howner] at hwhere <;> cases hwhere
    | spawnFails howner | attach howner | introduce _ _ howner | accept howner | acknowledge howner
    | mark howner | markFails howner | tellStarted howner | halt howner | tellStopped howner =>
      rw [howner] at hwhere; cases hwhere

theorem of_told (H : Parting actions s) (htold : .owner .tellStopped ∈ actions) :
    s.owner = .idle ∧ s.client.state = .stopped ∧ s.client.transport = none ∧
      tellings actions .stopped = 1 := by
  have hpos := tellings_pos.mpr ⟨_, htold, rfl⟩
  cases H with
  | stopped howner hc hnone hone => exact ⟨howner, hc, hnone, hone⟩
  | stopping _ _ hzero | detached _ _ _ hzero | halted _ _ _ hzero | givenUp _ _ _ hzero => omega

end Parting

/-- What is known of a client after the beginning of a stop, until the next call. -/
structure Departure (actions : List Action) (s : Traffic) : Prop where
  calm : ∀ i, (s.stageOf i).accuses = false
  crashes : tellings actions .crashed = 0
  parting : Parting actions s

theorem Span.departure (h : Span .stop s₀ actions s) (hcalm : ∀ i, (s₀.stageOf i).accuses = false) :
    Departure actions s := by
  refine h.induct (fun hbegin => ?_) fun {before s₁ a s₂} _ H hcall hstep => ?_
  · cases hbegin with
    | owner hstep =>
      cases hstep
      exact ⟨hcalm, rfl, .stopping rfl rfl rfl⟩
  · obtain ⟨hcalm', hfailure, hcrashed⟩ := hstep.calm H.parting.expectsEnd_eq H.calm
    refine ⟨hcalm', ?_, ?_⟩
    · rw [tellings_concat, H.crashes, List.count_eq_zero.mpr fun hmem => ?_]
      exact hcrashed (Option.mem_toList.mp hmem)
    · cases a with
      | owner action => cases hstep with | owner hstep => exact H.parting.owner hstep hcall
      | _ => exact H.parting.other hstep (fun _ => nofun) hfailure hcrashed

end AnalyzerClient.Traffic
