import AnalyzerClient.Proofs.Client.Tidings

/-!
# Starts and what follows them

A `Span` is a start or a stop and what happens from its beginning on, until the owner calls for
another start or stop. For a start, `Progress` says how far it got and what the state of the client
is then: it is that of a start under way, of a server that runs, or of one that failed, and a reader
that counted its server as failed leaves no other state than that (`Span.progress`).
-/

namespace AnalyzerClient.Traffic

variable {s₀ s s' : Traffic} {a : Action} {actions : List Action}

/-- Whether an action begins a start or a stop. -/
def Action.isCall : Action → Bool
  | .owner .beginStart | .owner .beginStop => true
  | _ => false

def Action.isFailure : Action → Bool
  | .reader _ _ .fail => true
  | _ => false

/-- Whether a reader counted its server as failed. -/
def blamed (actions : List Action) : Bool := actions.any (·.isFailure)

/-- How often something was told. -/
def tellings (actions : List Action) (tidings : Tidings) : Nat :=
  (actions.filterMap Action.tidings?).count tidings

theorem blamed_concat (actions : List Action) (a : Action) :
    blamed (actions ++ [a]) = (blamed actions || a.isFailure) := by
  rw [blamed, List.any_append, List.any_cons, List.any_nil, Bool.or_false, blamed]

theorem tellings_concat (actions : List Action) (a : Action) (tidings : Tidings) :
    tellings (actions ++ [a]) tidings =
      tellings actions tidings + a.tidings?.toList.count tidings := by
  rw [tellings, List.filterMap_append, List.count_append, List.filterMap_cons, tellings]
  cases a.tidings? <;> rfl

theorem tellings_pos {tidings : Tidings} :
    0 < tellings actions tidings ↔ ∃ a ∈ actions, a.tidings? = some tidings := by
  rw [tellings, List.count_pos_iff, List.mem_filterMap]

theorem tellings_started_pos : 0 < tellings actions .started ↔ .owner .tellStarted ∈ actions := by
  rw [tellings_pos]
  constructor
  · rintro ⟨a, ha, htidings⟩
    unfold Action.tidings? at htidings
    split at htidings
    · exact ha
    · cases htidings
    · cases htidings
    · cases htidings
  · intro ha
    exact ⟨_, ha, rfl⟩

theorem blamed_eq_false_iff : blamed actions = false ↔ ∀ i t, .reader i t .fail ∉ actions := by
  rw [blamed, List.any_eq_false]
  constructor
  · intro h i t hmem
    exact h _ hmem rfl
  · intro h a ha hfailure
    unfold Action.isFailure at hfailure
    split at hfailure
    · exact h _ _ ha
    · cases hfailure

theorem tellings_crashed_eq_zero_iff :
    tellings actions .crashed = 0 ↔ ∀ i t, .reader i t .tell ∉ actions := by
  constructor
  · intro hzero i t hmem
    have hpos : 0 < tellings actions .crashed := tellings_pos.mpr ⟨_, hmem, rfl⟩
    omega
  · intro h
    refine Nat.eq_zero_of_not_pos fun hpos => ?_
    obtain ⟨a, ha, htidings⟩ := tellings_pos.mp hpos
    unfold Action.tidings? at htidings
    split at htidings
    · cases htidings
    · cases htidings
    · exact h _ _ ha
    · cases htidings

theorem blamed_of_left {before after : List Action} (h : blamed (before ++ after) = false) :
    blamed before = false := by
  rw [blamed, List.any_append, Bool.or_eq_false_iff] at h
  exact h.1

theorem Run.count_tidings (h : Run s actions s') (tidings : Tidings) :
    s'.client.tidings.count tidings =
      s.client.tidings.count tidings + tellings actions tidings := by
  rw [h.tidings, List.count_append, tellings]

/-- What the owner calls for. -/
inductive Errand where
  | start
  | stop

/-- The action by which a start or a stop begins. -/
def Errand.begins : Errand → Action
  | .start => .owner .beginStart
  | .stop => .owner .beginStop

/-- A start or a stop and what happened from its beginning on. The owner has called for nothing else
since. -/
structure Span (errand : Errand) (s₀ : Traffic) (actions : List Action) (s : Traffic) : Prop where
  run : ∃ s₁, Step s₀ errand.begins s₁ ∧ Run s₁ actions s
  alone : ∀ a ∈ actions, a.isCall = false

namespace Span

variable {errand : Errand}

theorem begin {s₁ : Traffic} (h : Step s₀ errand.begins s₁) : Span errand s₀ [] s₁ :=
  ⟨⟨s₁, h, .done s₁⟩, nofun⟩

theorem whole (h : Span errand s₀ actions s) : Run s₀ (errand.begins :: actions) s := by
  obtain ⟨s₁, hbegin, hrun⟩ := h.run
  exact .step hbegin hrun

theorem append {later : List Action} (h : Span errand s₀ actions s) (hlater : Run s later s')
    (halone : ∀ a ∈ later, a.isCall = false) : Span errand s₀ (actions ++ later) s' := by
  obtain ⟨s₁, hbegin, hrun⟩ := h.run
  refine ⟨⟨s₁, hbegin, hrun.append hlater⟩, fun a ha => ?_⟩
  exact (List.mem_append.mp ha).elim (h.alone a) (halone a)

theorem concat (h : Span errand s₀ actions s) (hstep : Step s a s') (ha : a.isCall = false) :
    Span errand s₀ (actions ++ [a]) s' :=
  h.append (.step hstep (.done s')) fun _ ha' => List.mem_singleton.mp ha' ▸ ha

theorem split_at {before after : List Action} (h : Span errand s₀ (before ++ a :: after) s) :
    ∃ s₁ s₂, Span errand s₀ before s₁ ∧ Step s₁ a s₂ ∧ Run s₂ after s := by
  obtain ⟨s', hbegin, hrun⟩ := h.run
  obtain ⟨s₁, s₂, hbefore, hstep, hafter⟩ := hrun.split_at
  exact ⟨s₁, s₂, ⟨⟨s', hbegin, hbefore⟩, fun a ha => h.alone a (List.mem_append_left _ ha)⟩, hstep,
    hafter⟩

/-- What holds when a start or a stop begins and is kept by every step holds in every span. -/
theorem induct {P : List Action → Traffic → Prop} (h : Span errand s₀ actions s)
    (begins : ∀ {s₁}, Step s₀ errand.begins s₁ → P [] s₁)
    (step : ∀ {before s₁ a s₂}, Span errand s₀ before s₁ → P before s₁ → a.isCall = false →
      Step s₁ a s₂ → P (before ++ [a]) s₂) : P actions s := by
  obtain ⟨s₁, hbegin, hrun⟩ := h.run
  refine (hrun.induct (P := fun actions s => Span errand s₀ actions s ∧ P actions s)
    ⟨.begin hbegin, begins hbegin⟩ ?_).2
  rintro before s₁ a s₂ ⟨hspan, hP⟩ ha hstep
  exact ⟨hspan.concat hstep (h.alone a ha), step hspan hP (h.alone a ha) hstep⟩

theorem count_tidings (h : Span errand s₀ actions s) (tidings : Tidings) :
    s.client.tidings.count tidings =
      s₀.client.tidings.count tidings + tellings actions tidings := by
  obtain ⟨s₁, hbegin, hrun⟩ := h.run
  have hnone : errand.begins.tidings? = none := by cases errand <;> rfl
  rw [hrun.count_tidings, hbegin.does.tidings, hnone]
  exact congrArg (List.count tidings · + _) (List.append_nil _)

end Span

/-! ## The owner -/

/-- Whether a start is under way whose server does not count as running yet. -/
def Owner.isStarting : Owner → Bool
  | .tabled | .attached | .introducing _ | .introduced | .acknowledged => true
  | _ => false

/-- Others do not move the owner, and change the state only if they count a server as failed. -/
theorem Step.of_other (h : Step s a s') (ha : ∀ action, a ≠ .owner action) :
    s'.owner = s.owner ∧
      s'.client.state = if a.isFailure = true then .failed else s.client.state := by
  rw [h.does.state]
  cases h with
  | owner hstep => exact absurd rfl (ha _)
  | @reader _ _ _ action hstream hstep => cases action <;> exact ⟨rfl, rfl⟩
  | _ => exact ⟨rfl, rfl⟩

theorem tidings?_of_other (ha : ∀ action, a ≠ .owner action) :
    a.tidings? = none ∨ a.tidings? = some .crashed := by
  cases a with
  | owner action => exact absurd rfl (ha action)
  | reader server t action => cases action <;> first | exact .inl rfl | exact .inr rfl
  | _ => exact .inl rfl

theorem OwnerStep.isCall_of_idle {action : OwnerAction} (h : OwnerStep s action s')
    (hidle : s.owner = .idle) : (Action.owner action).isCall = true := by
  have hstarts := h.startsAt
  rw [hidle] at hstarts
  cases action <;> first | rfl | cases hstarts

theorem OwnerStep.eq_tellStarted {action : OwnerAction} (h : OwnerStep s action s')
    (hmarked : s.owner = .marked) : action = .tellStarted ∧ s'.owner = .idle := by
  have hstarts := h.startsAt
  rw [hmarked] at hstarts
  cases h with
  | tellStarted => exact ⟨rfl, rfl⟩
  | _ => cases hstarts

/-! ## How far a start got -/

/-- Whether the start came to its mark, before any server was counted as failed. -/
def Marked (actions : List Action) : Prop :=
  ∃ before after, actions = before ++ .owner .mark :: after ∧ blamed before = false

theorem marked_concat : Marked (actions ++ [a]) ↔
    Marked actions ∨ (a = .owner .mark ∧ blamed actions = false) := by
  constructor
  · rintro ⟨before, after, he, hblamed⟩
    rcases List.eq_nil_or_concat after with rfl | ⟨after, b, rfl⟩
    · obtain ⟨rfl, ha⟩ := List.append_inj' he rfl
      exact .inr ⟨List.singleton_inj.mp ha, hblamed⟩
    · rw [List.concat_eq_append, ← List.cons_append, ← List.append_assoc] at he
      exact .inl ⟨before, after, (List.append_inj' he rfl).1, hblamed⟩
  · rintro (⟨before, after, rfl, hblamed⟩ | ⟨rfl, hblamed⟩)
    · exact ⟨before, after ++ [a], by rw [List.append_assoc, List.cons_append], hblamed⟩
    · exact ⟨actions, [], rfl, hblamed⟩

/-- How far a start got, with the state of the client and what was told of the start. -/
inductive Progress (actions : List Action) (s : Traffic) : Prop
  | starting (owner : s.owner.isStarting = true)
      (state : s.client.state = if blamed actions then .failed else .starting)
      (told : tellings actions .started = 0) (unmarked : ¬ Marked actions)
  | marked (owner : s.owner = .marked)
      (state : s.client.state = if blamed actions then .failed else .running)
      (told : tellings actions .started = 0) (marked : Marked actions)
  /-- The start succeeded. -/
  | started (owner : s.owner = .idle)
      (state : s.client.state = if blamed actions then .failed else .running)
      (told : tellings actions .started = 1) (marked : Marked actions)
  | failed (owner : s.owner = .idle) (state : s.client.state = .failed)
      (told : tellings actions .started = 0) (unmarked : ¬ Marked actions)
  /-- The owner did not wait for the end of the start. -/
  | givenUp (owner : s.owner = .idle) (abandoned : .owner .abandon ∈ actions)
      (state : s.client.state = if blamed actions then .failed else .starting)
      (told : tellings actions .started = 0) (unmarked : ¬ Marked actions)

namespace Progress

/-- What others do leaves the start where it is. -/
theorem other (H : Progress actions s) (h : Step s a s') (ha : ∀ action, a ≠ .owner action) :
    Progress (actions ++ [a]) s' := by
  obtain ⟨howner, hstate⟩ := h.of_other ha
  have hcount : tellings (actions ++ [a]) .started = tellings actions .started := by
    rw [tellings_concat]
    rcases tidings?_of_other ha with hnone | hcrashed
    · rw [hnone]; rfl
    · rw [hcrashed]; rfl
  have hmarked : Marked (actions ++ [a]) ↔ Marked actions :=
    marked_concat.trans (or_iff_left fun he => ha _ he.1)
  have state {c : ServerState} (hc : s.client.state = if blamed actions then .failed else c) :
      s'.client.state = if blamed (actions ++ [a]) then .failed else c := by
    rw [hstate, hc, blamed_concat]
    cases blamed actions <;> cases a.isFailure <;> rfl
  cases H with
  | starting hwhere hc htold hunmarked =>
    exact .starting (howner ▸ hwhere) (state hc) (hcount.trans htold) (mt hmarked.mp hunmarked)
  | marked hwhere hc htold hmark =>
    exact .marked (howner.trans hwhere) (state hc) (hcount.trans htold) (hmarked.mpr hmark)
  | started hwhere hc htold hmark =>
    exact .started (howner.trans hwhere) (state hc) (hcount.trans htold) (hmarked.mpr hmark)
  | failed hwhere hc htold hunmarked =>
    refine .failed (howner.trans hwhere) ?_ (hcount.trans htold) (mt hmarked.mp hunmarked)
    rw [hstate, hc, ite_self]
  | givenUp hwhere hgave hc htold hunmarked =>
    exact .givenUp (howner.trans hwhere) (List.mem_append_left _ hgave) (state hc)
      (hcount.trans htold) (mt hmarked.mp hunmarked)

/-- What the owner does brings the start further, or to its end. -/
theorem owner {action : OwnerAction} (H : Progress actions s) (h : OwnerStep s action s')
    (hcall : (Action.owner action).isCall = false) :
    Progress (actions ++ [.owner action]) s' := by
  have hblamed : blamed (actions ++ [.owner action]) = blamed actions := by
    rw [blamed_concat]; exact Bool.or_false _
  have told {n : Nat} (hn : tellings actions .started = n)
      (htidings : (Action.owner action).tidings? = none) :
      tellings (actions ++ [.owner action]) .started = n := by
    rw [tellings_concat, htidings, hn]; rfl
  have unmarked (hunmarked : ¬ Marked actions) (haction : action ≠ .mark) :
      ¬ Marked (actions ++ [.owner action]) := fun hmarked =>
    (marked_concat.mp hmarked).elim hunmarked fun he => haction (by cases he.1; rfl)
  cases H with
  | started hidle | failed hidle | givenUp hidle =>
    rw [h.isCall_of_idle hidle] at hcall; cases hcall
  | marked hmarked hc htold hmark =>
    obtain ⟨rfl, hidle⟩ := h.eq_tellStarted hmarked
    refine .started hidle ?_ ?_ (marked_concat.mpr (.inl hmark))
    · rw [h.does.state, hblamed]; exact hc
    · rw [tellings_concat, htold]; rfl
  | starting hwhere hc htold hunmarked =>
    have starting (howner : s'.owner.isStarting = true)
        (hstate : (Action.owner action).stateAfter s.client.state = s.client.state)
        (htidings : (Action.owner action).tidings? = none) (haction : action ≠ .mark) :
        Progress (actions ++ [.owner action]) s' :=
      .starting howner (by rw [h.does.state, hstate, hblamed, hc]) (told htold htidings)
        (unmarked hunmarked haction)
    cases h with
    | beginStart | beginStop => cases hcall
    | attach | introduce | accept | acknowledge => exact starting rfl rfl rfl nofun
    | spawnFails | fail => exact .failed rfl rfl (told htold rfl) (unmarked hunmarked nofun)
    | abandon =>
      exact .givenUp rfl (List.mem_append_right _ (List.mem_singleton_self _)) (hblamed ▸ hc)
        (told htold rfl) (unmarked hunmarked nofun)
    | @mark c howner hrunning =>
      -- the state is still that of a start, so no reader counted a server as failed
      obtain ⟨hstarting, rfl⟩ := Client.markRunning_eq_ok hrunning
      have hfree : blamed actions = false := by
        cases hb : blamed actions with
        | false => rfl
        | true => rw [hb, if_pos rfl, hstarting] at hc; cases hc
      refine .marked rfl ?_ (told htold rfl) (marked_concat.mpr (.inr ⟨rfl, hfree⟩))
      rw [hblamed, hfree]; rfl
    | markFails howner hrunning =>
      have hblame : blamed actions = true := by
        cases hb : blamed actions with
        | true => rfl
        | false => rw [hb] at hc; exact absurd hc (Client.markRunning_eq_error hrunning)
      refine .failed rfl (by rw [hc, hblame]; rfl) (told htold rfl) fun hmarked => ?_
      rcases marked_concat.mp hmarked with hmarked | ⟨-, hfree⟩
      · exact hunmarked hmarked
      · rw [hblame] at hfree; cases hfree
    | tellStarted howner | part howner | skip howner | hearGoodbye howner | sayExit howner
    | exitFails howner | detach howner | halt howner | tellStopped howner =>
      rw [howner] at hwhere; cases hwhere

end Progress

theorem Span.progress (h : Span .start s₀ actions s) : Progress actions s := by
  refine h.induct (fun hbegin => ?_) fun {before s₁ a s₂} _ H hcall hstep => ?_
  · have hstate := hbegin.does.state
    cases hbegin with
    | owner hstep =>
      cases hstep
      exact .starting rfl hstate rfl (by rintro ⟨before, after, he, -⟩; cases before <;> cases he)
  · cases a with
    | owner action => cases hstep with | owner hstep => exact H.owner hstep hcall
    | _ => exact H.other hstep fun _ => nofun

/-- A start that came to its mark before any server was counted as failed told that it succeeded, or
is to tell it. -/
theorem Progress.of_marked (H : Progress actions s) (hmarked : Marked actions) :
    (s.owner = .marked ∨ (s.owner = .idle ∧ .owner .tellStarted ∈ actions)) ∧
      s.client.state = if blamed actions then .failed else .running := by
  cases H with
  | starting _ _ _ hunmarked | failed _ _ _ hunmarked | givenUp _ _ _ _ hunmarked =>
    exact absurd hmarked hunmarked
  | marked howner hc => exact ⟨.inl howner, hc⟩
  | started howner hc htold =>
    exact ⟨.inr ⟨howner, tellings_started_pos.mp (by omega)⟩, hc⟩

/-- A reader that counted its server as failed leaves no other state than that. -/
theorem Progress.state_of_blamed (H : Progress actions s) (h : blamed actions = true) :
    s.client.state = .failed := by
  cases H with
  | starting _ hc | marked _ hc | started _ hc | givenUp _ _ hc => rw [hc, h]; rfl
  | failed _ hc => exact hc

theorem Progress.marked_of_told (H : Progress actions s) (htold : .owner .tellStarted ∈ actions) :
    Marked actions := by
  have hpos := tellings_started_pos.mpr htold
  cases H with
  | marked _ _ _ hmarked | started _ _ _ hmarked => exact hmarked
  | starting _ _ hnone | failed _ _ hnone | givenUp _ _ _ hnone => omega

/-- From the beginning of a start to the next call nobody asks for the end of a server. -/
theorem Progress.expectsEnd_eq (H : Progress actions s) : s.client.expectsEnd = false := by
  cases H with
  | starting _ hc | marked _ hc | started _ hc | givenUp _ _ hc =>
    rw [Client.expectsEnd, hc]
    split <;> rfl
  | failed _ hc => rw [Client.expectsEnd, hc]; rfl

theorem Progress.ne_leaving (H : Progress actions s) : s.owner ≠ .leaving := by
  cases H with
  | starting howner => rintro he; rw [he] at howner; cases howner
  | marked howner | started howner | failed howner | givenUp howner => rw [howner]; nofun

namespace Span

variable {before after : List Action}

/-- A start comes to its mark behind the notification. -/
theorem acknowledged_of_mark (hspan : Span .start s₀ (before ++ .owner .mark :: after) s) :
    ∃ s₁, Span .start s₀ before s₁ ∧ s₁.owner = .acknowledged := by
  obtain ⟨s₁, s₂, hbefore, hstep, -⟩ := hspan.split_at
  refine ⟨s₁, hbefore, ?_⟩
  cases hstep with
  | owner hstep => cases hstep with | mark howner | markFails howner => exact howner

/-- A start that came to its mark before any server was counted as failed comes to it once. -/
theorem unblamed_of_marked (hspan : Span .start s₀ (before ++ .owner .mark :: after) s)
    (hmarked : Marked (before ++ .owner .mark :: after)) : blamed before = false := by
  obtain ⟨s₁, hbefore, howner⟩ := hspan.acknowledged_of_mark
  have hunmarked : ¬ Marked before := by
    have hprogress := hbefore.progress
    cases hprogress with
    | starting _ _ _ hunmarked => exact hunmarked
    | marked hwhere | started hwhere | failed hwhere | givenUp hwhere =>
      rw [howner] at hwhere; cases hwhere
  obtain ⟨first, rest, he, hfirst⟩ := hmarked
  rcases List.append_eq_append_iff.mp he with ⟨between, rfl, -⟩ | ⟨between, rfl, hbetween⟩
  · exact blamed_of_left hfirst
  · cases between with
    | nil => rwa [List.append_nil]
    | cons a between =>
      cases hbetween
      exact absurd ⟨first, between, rfl, hfirst⟩ hunmarked

end Span

end AnalyzerClient.Traffic
