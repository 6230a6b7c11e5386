import AnalyzerClient.Proofs.Client.Breakdown
import AnalyzerClient.Proofs.Client.Succession

/-!
# Where the state and the tidings disagree

A reader looks at the state of the client in one step, counts its server as failed in another one,
and tells so in a third; and a start that came to its mark tells so in a later step. What happens
between these steps decides whether a crash is told before the start of its server
(`Span.tell_iff`), and whether a client that was stopped counts as stopped (`Stopping`,
`Span.accused`). Both happen wherever a reader found in time that nobody asked for the end of its
server (`Run.agreement`).
-/

namespace AnalyzerClient.Traffic

variable {config : Server.Config} {s₀ s s' : Traffic} {a : Action}
  {actions earlier during before after : List Action} {i t : Nat}

/-! ## Starts -/

/-- The reader of a server counts it as failed, and tells so later. -/
def Outcry (server : Nat) (actions : List Action) : Prop :=
  ∃ front back t t', actions = front ++ back ∧ .reader server t .fail ∈ front ∧
    .reader server t' .tell ∈ back

/-- Whether a reader counted its server as failed and is yet to tell so. -/
def ReaderStage.isFailed : ReaderStage → Bool
  | .failed _ => true
  | _ => false

namespace Span

/-- A reader tells of a crash only when it counted its server as failed. -/
theorem fail_of_tell (hspan : Span .start s₀ (before ++ .reader s₀.next t .tell :: after) s) :
    ∃ t', .reader s₀.next t' .fail ∈ before := by
  obtain ⟨s₁, s₂, hbefore, hstep, -⟩ := hspan.split_at
  obtain ⟨-, st, st', c, parcels, hst, -, hread⟩ := hstep.reader_step
  have hstage : (s₁.stageOf s₀.next).isFailed = true := by
    rw [stageOf_eq hst]
    cases hread with | tell hstage => rw [hstage]; rfl
  obtain ⟨t', action, hmem, rfl⟩ : ∃ t' action,
      .reader s₀.next t' action ∈ Action.owner .beginStart :: before ∧ action = .fail := by
    refine hbefore.whole.mem_of_stageOf ?_ (congrArg ReaderStage.isFailed s₀.stageOf_next) hstage
    intro c c' st st' action parcels hstep hfailed
    cases hstep with
    | fail => exact .inr rfl
    | @read _ _ _ answer => cases answer <;> cases hfailed
    | answer | answerFails | leave | breakDown | close | expect | condemn | tell | vanish =>
      cases hfailed
  exact ⟨t', (List.mem_cons.mp hmem).resolve_left (by simp)⟩

/-- A crash is told before the start of its server exactly when the reader counts the server as
failed and tells so between the mark of the start and its end. -/
theorem tell_iff (hspan : Span .start s₀ (during ++ [.owner .tellStarted]) s) :
    (∃ t, .reader s₀.next t .tell ∈ during) ↔
      ∃ before window, during = before ++ .owner .mark :: window ∧ Outcry s₀.next window := by
  constructor
  · rintro ⟨t, htell⟩
    have hmarked := hspan.progress.marked_of_told List.mem_concat_self
    obtain ⟨before, window, rfl, hfree⟩ := (marked_concat.mp hmarked).resolve_right (by simp)
    -- no server was counted as failed before the mark, so none was told to have crashed
    have hlate {t : Nat} : .reader s₀.next t .fail ∉ before := blamed_eq_false_iff.mp hfree _ t
    have hwindow : .reader s₀.next t .tell ∈ window := by
      rcases List.mem_append.mp htell with hmem | hmem
      · obtain ⟨front, back, rfl⟩ := List.append_of_mem hmem
        rw [List.append_assoc, List.append_assoc, List.cons_append] at hspan
        obtain ⟨t', hfail⟩ := hspan.fail_of_tell
        exact absurd (List.mem_append_left _ hfail) hlate
      · exact (List.mem_cons.mp hmem).resolve_left (by simp)
    obtain ⟨front, back, rfl⟩ := List.append_of_mem hwindow
    rw [← List.cons_append, ← List.append_assoc, List.append_assoc, List.cons_append] at hspan
    obtain ⟨t', hfail⟩ := hspan.fail_of_tell
    refine ⟨before, _, rfl, front, .reader s₀.next t .tell :: back, t', t, rfl, ?_,
      List.mem_cons_self⟩
    rcases List.mem_append.mp hfail with hmem | hmem
    · exact absurd hmem hlate
    · exact (List.mem_cons.mp hmem).resolve_left (by simp)
  · rintro ⟨before, window, rfl, front, back, t, t', rfl, -, htell⟩
    exact ⟨t', List.mem_append_right _ <| List.mem_cons_of_mem _ <| List.mem_append_right _ htell⟩

theorem not_tellStopped (hspan : Span .start s₀ actions s) :
    .owner .tellStopped ∉ actions := by
  intro hmem
  obtain ⟨before, after, rfl⟩ := List.append_of_mem hmem
  obtain ⟨s₁, s₂, hbefore, hstep, -⟩ := hspan.split_at
  have hprogress := hbefore.progress
  cases hstep with
  | owner hstep =>
    cases hstep with
    | tellStopped howner =>
      cases hprogress with
      | starting hwhere | marked hwhere | started hwhere | failed hwhere | givenUp hwhere =>
        rw [howner] at hwhere; cases hwhere

/-- What is told from the beginning of a start that succeeds to its end, and the state at the end,
if nobody but the reader of the new server counts a server as failed. -/
theorem told_of_started (h : Run (.initial config) earlier s₀)
    (hspan : Span .start s₀ (during ++ [.owner .tellStarted]) s)
    (hquiet : Undisturbed s₀.next during) :
    s.client.tidings = s₀.client.tidings ++
        (List.replicate (s.stageOf s₀.next).crashes .crashed ++ [.started]) ∧
      s.client.state = if (s.stageOf s₀.next).hasFailed then .failed else .running := by
  have hprogress := hspan.progress
  have hnew := Span.newcomer h hspan
  have hquiet' : Undisturbed s₀.next (during ++ [.owner .tellStarted]) := fun i t action hmem =>
    hquiet i t action ((List.mem_append.mp hmem).resolve_right (by simp))
  have hmarked := hprogress.marked_of_told List.mem_concat_self
  have honce : tellings during .started = 0 := by
    have hcount := tellings_concat during (.owner .tellStarted) .started
    have hlast : (Action.owner .tellStarted).tidings?.toList.count .started = 1 := rfl
    cases hprogress with
    | started _ _ hone => omega
    | starting _ _ hnone | marked _ _ hnone | failed _ _ hnone | givenUp _ _ _ hnone => omega
  have hcrashes : tellings during .crashed = (s.stageOf s₀.next).crashes := by
    rw [← hnew.crashes_eq hquiet', tellings_concat]; rfl
  have honly : ∀ tidings ∈ during.filterMap Action.tidings?, tidings = .crashed := by
    intro tidings hmem
    cases tidings with
    | crashed => rfl
    | started => exact absurd hmem (List.count_eq_zero.mp honce)
    | stopped =>
      obtain ⟨a, ha, htidings⟩ := List.mem_filterMap.mp hmem
      unfold Action.tidings? at htidings
      split at htidings
      · cases htidings
      · exact absurd (List.mem_append_left _ ha) hspan.not_tellStopped
      · cases htidings
      · cases htidings
  have htold : during.filterMap Action.tidings? =
      List.replicate (s.stageOf s₀.next).crashes .crashed := by
    have hall := List.eq_replicate_of_mem honly
    rw [← hcrashes, tellings, hall, List.count_replicate_self]
  constructor
  · rw [hspan.whole.tidings, List.filterMap_cons, List.filterMap_append, htold]
    rfl
  · rw [(hprogress.of_marked hmarked).2, hnew.blamed_eq hquiet']

end Span

/-! ## Stops -/

theorem blamed_append_halt (before after : List Action) :
    blamed (before ++ .owner .halt :: after) = (blamed before || blamed after) := by
  rw [blamed, List.any_append, List.any_cons]; rfl

/-- How far a stop got, and what the state of the client is then, whatever the readers found. -/
inductive Stopping (actions : List Action) (s : Traffic) : Prop
  | running (owner : s.owner.isStopping = true ∨ s.owner = .detached)
      (state : s.client.state = if blamed actions then .failed else .shuttingDown)
      (untold : .owner .tellStopped ∉ actions)
  | halted {before after : List Action} (split : actions = before ++ .owner .halt :: after)
      (owner : s.owner = .halted ∨ s.owner = .idle)
      (state : s.client.state = if blamed after then .failed else .stopped)
      (untold : .owner .tellStopped ∉ before)
  /-- The owner did not wait for the end of the stop. -/
  | givenUp (owner : s.owner = .idle)
      (state : s.client.state = if blamed actions then .failed else .shuttingDown)
      (untold : .owner .tellStopped ∉ actions)

namespace Stopping

theorem other (H : Stopping actions s) (h : Step s a s') (ha : ∀ action, a ≠ .owner action) :
    Stopping (actions ++ [a]) s' := by
  obtain ⟨howner, hstate⟩ := h.of_other ha
  have state {actions : List Action} {c : ServerState}
      (hc : s.client.state = if blamed actions then .failed else c) :
      s'.client.state = if blamed (actions ++ [a]) then .failed else c := by
    rw [hstate, hc, blamed_concat]
    cases blamed actions <;> cases a.isFailure <;> rfl
  have untold (huntold : .owner .tellStopped ∉ actions) :
      .owner .tellStopped ∉ actions ++ [a] := fun hmem =>
    (List.mem_append.mp hmem).elim huntold fun hmem => ha _ (List.mem_singleton.mp hmem).symm
  cases H with
  | running hwhere hc huntold => exact .running (howner ▸ hwhere) (state hc) (untold huntold)
  | halted hsplit hwhere hc huntold =>
    exact .halted (by rw [hsplit, List.append_assoc, List.cons_append]) (howner ▸ hwhere) (state hc)
      huntold
  | givenUp hwhere hc huntold => exact .givenUp (howner.trans hwhere) (state hc) (untold huntold)

theorem owner {action : OwnerAction} (H : Stopping actions s) (h : OwnerStep s action s')
    (hcall : (Action.owner action).isCall = false) :
    Stopping (actions ++ [.owner action]) s' := by
  have hstarts := h.startsAt
  have hstate := h.does.state
  have hblamed (actions : List Action) : blamed (actions ++ [.owner action]) = blamed actions := by
    rw [blamed_concat]; exact Bool.or_false _
  have untold (haction : action ≠ .tellStopped) (huntold : .owner .tellStopped ∉ actions) :
      .owner .tellStopped ∉ actions ++ [.owner action] := by
    rw [List.mem_append, List.mem_singleton]
    rintro (hmem | he)
    · exact huntold hmem
    · cases he; exact haction rfl
  cases H with
  | givenUp hidle => rw [h.isCall_of_idle hidle] at hcall; cases hcall
  | halted hsplit hwhere hc huntold =>
    rcases hwhere with hwhere | hidle
    · rw [hwhere] at hstarts
      cases h with
      | tellStopped =>
        exact .halted (by rw [hsplit, List.append_assoc, List.cons_append]) (.inr rfl)
          (by rw [hblamed]; exact hstate.trans hc) huntold
      | _ => cases hstarts
    · rw [h.isCall_of_idle hidle] at hcall; cases hcall
  | running hwhere hc huntold =>
    cases h with
    | beginStart | beginStop => cases hcall
    | part | skip | hearGoodbye | sayExit | exitFails =>
      exact .running (.inl rfl) (by rw [hblamed]; exact hstate.trans hc) (untold nofun huntold)
    | detach =>
      exact .running (.inr rfl) (by rw [hblamed]; exact hstate.trans hc) (untold nofun huntold)
    | halt => exact .halted rfl (.inl rfl) rfl huntold
    | abandon => exact .givenUp rfl (by rw [hblamed]; exact hc) (untold nofun huntold)
    | fail howner =>
      rcases howner with howner | ⟨k, howner, -⟩ <;> rw [howner] at hwhere <;>
        rcases hwhere with hwhere | hwhere <;> cases hwhere
    | spawnFails howner | attach howner | introduce _ _ howner | accept howner | acknowledge howner
    | mark howner | markFails howner | tellStarted howner | tellStopped howner =>
      rw [howner] at hwhere
      rcases hwhere with hwhere | hwhere <;> cases hwhere

theorem of_told (H : Stopping actions s) (htold : .owner .tellStopped ∈ actions) :
    ∃ before after, actions = before ++ .owner .halt :: after ∧ .owner .tellStopped ∈ after ∧
      s.client.state = if blamed after then .failed else .stopped := by
  cases H with
  | running _ _ huntold | givenUp _ _ huntold => exact absurd htold huntold
  | @halted before after hsplit _ hc huntold =>
    refine ⟨before, after, hsplit, ?_, hc⟩
    rw [hsplit, List.mem_append, List.mem_cons] at htold
    exact (htold.resolve_left huntold).resolve_left nofun

/-- As long as no reader counts its server as failed, readers find that the end was asked for. -/
theorem expectsEnd_eq (H : Stopping actions s) (hfree : blamed actions = false) :
    s.client.expectsEnd = true := by
  cases H with
  | running _ hc | givenUp _ hc => rw [Client.expectsEnd, hc, hfree]; rfl
  | halted hsplit _ hc =>
    rw [hsplit, blamed_append_halt, Bool.or_eq_false_iff] at hfree
    rw [Client.expectsEnd, hc, hfree.2]
    rfl

end Stopping

namespace Span

theorem stopping (h : Span .stop s₀ actions s) : Stopping actions s := by
  refine h.induct (fun hbegin => ?_) fun {before s₁ a s₂} _ H hcall hstep => ?_
  · cases hbegin with
    | owner hstep => cases hstep; exact .running (.inl rfl) rfl nofun
  · cases a with
    | owner action => cases hstep with | owner hstep => exact H.owner hstep hcall
    | _ => exact H.other hstep fun _ => nofun

/-- A reader that is to count its server as failed was so when the stop began, if none has done so
since. -/
theorem condemned (h : Span .stop s₀ actions s) (hfree : blamed actions = false) {reason : String}
    (hstage : s.stageOf i = .condemned reason) : s₀.stageOf i = .condemned reason := by
  refine h.induct (P := fun actions s => blamed actions = false →
    s.stageOf i = .condemned reason → s₀.stageOf i = .condemned reason)
    (fun hbegin _ hstage => ?_) (fun {before s₁ a s₂} hbefore ih _ hstep hfree hstage => ?_)
    hfree hstage
  · rwa [hbegin.stageOf_of_other fun _ _ => nofun] at hstage
  · have hfree' := blamed_of_left hfree
    by_cases hown : ∃ t action, a = .reader i t action
    · obtain ⟨t, action, rfl⟩ := hown
      obtain ⟨-, st, st', c, parcels, hst, hst', hread⟩ := hstep.reader_step
      rw [stageOf_eq hst'] at hstage
      cases hread with
      | condemn _ hunexpected =>
        exact absurd (hbefore.stopping.expectsEnd_eq hfree') hunexpected
      | @read _ _ _ answer => cases answer <;> cases hstage
      | answer | answerFails | leave | breakDown | close | expect | fail | tell | vanish =>
        cases hstage
    · rw [hstep.stageOf_of_other fun t action he => hown ⟨t, action, he⟩] at hstage
      exact ih hfree' hstage

/-- The first reader that counts its server as failed after the beginning of a stop found before
that nobody asked for the end of the server. -/
theorem accused (h : Span .stop s₀ actions s) (hblamed : blamed actions = true) :
    ∃ before i t after reason, actions = before ++ .reader i t .fail :: after ∧
      blamed before = false ∧ s₀.stageOf i = .condemned reason := by
  have hsome := List.find?_isSome.mpr (List.any_eq_true.mp hblamed)
  obtain ⟨a, ha⟩ := Option.isSome_iff_exists.mp hsome
  obtain ⟨hfailure, before, after, rfl, hfirst⟩ := List.find?_eq_some_iff_append.mp ha
  have hfree : blamed before = false := by
    rw [blamed, List.any_eq_false]
    exact fun b hb => by simpa using hfirst b hb
  obtain ⟨s₁, s₂, hbefore, hstep, -⟩ := h.split_at
  cases a with
  | reader i t action =>
    obtain ⟨-, st, st', c, parcels, hst, -, hread⟩ := hstep.reader_step
    cases hread with
    | @fail reason hstage =>
      exact ⟨before, i, t, after, reason, rfl, hfree,
        hbefore.condemned hfree ((stageOf_eq hst).trans hstage)⟩
    | read | answer | answerFails | leave | breakDown | close | expect | condemn | tell | vanish =>
      cases hfailure
  | _ => cases hfailure

end Span

/-! ## Schedules -/

theorem Run.stageOf_of_others (h : Run s actions s')
    (hothers : ∀ t action, .reader i t action ∉ actions) : s'.stageOf i = s.stageOf i := by
  induction h with
  | done => rfl
  | step hfirst _ ih =>
    rw [ih fun t action hmem => hothers t action (List.mem_cons_of_mem _ hmem),
      hfirst.stageOf_of_other fun t action he => hothers t action (he ▸ List.mem_cons_self)]

theorem Run.owner_of_others (h : Run s actions s') (hothers : ∀ action, .owner action ∉ actions) :
    s'.owner = s.owner := by
  induction h with
  | done => rfl
  | step hfirst _ ih =>
    rw [ih fun action hmem => hothers action (List.mem_cons_of_mem _ hmem),
      (hfirst.of_other fun action he => hothers action (he ▸ List.mem_cons_self)).1]

/-- A request that was just made can end by itself: it is refused, or it cannot be written. -/
theorem ends_alone_of_issued {k : Nat} {call : Call} (hk : s.calls[k]? = some call)
    (hstage : call.stage = .issued) : EndsAlone s k call 3 := by
  have hlt := (List.getElem?_eq_some_iff.mp hk).1
  cases hregister : s.client.register call.id with
  | error e =>
    exact ⟨[.call k .refuse], _, _, .step (.call hk (.refuse hstage hregister)) (.done _),
      by simp, fun a ha => ⟨.refuse, List.mem_singleton.mp ha, nofun⟩, List.getElem?_set_self hlt⟩
  | ok c =>
    refine ⟨[.call k .register, .call k (.writeFails .brokenPipe), .call k .withdraw], _, _,
      .step (.call hk (.register hstage hregister)) <|
      .step (.call (List.getElem?_set_self hlt) (.writeFails .brokenPipe rfl)) <|
      .step (.call (List.getElem?_set_self (by simpa using hlt)) (.withdraw rfl)) <| .done _,
      by simp, ?_, List.getElem?_set_self (by simpa using hlt)⟩
    simp

/-- A client that nobody uses can be stopped, without any reader doing anything. -/
theorem Run.stops (hfree : s₀.Free) : ∃ parting s, Span .stop s₀ parting s ∧
    .owner .tellStopped ∈ parting ∧ ∀ i t action, .reader i t action ∉ parting := by
  cases htransport : s₀.client.transport with
  | none =>
    refine ⟨[.owner .skip, .owner .detach, .owner .halt, .owner .tellStopped], _,
      ⟨⟨_, .owner (.beginStop hfree), .step (.owner (.skip rfl htransport)) <|
        .step (.owner (.detach rfl)) <| .step (.owner (.halt rfl)) <|
        .step (.owner (.tellStopped rfl)) <| .done _⟩, ?_⟩, ?_, ?_⟩
    · simp [Action.isCall]
    · simp
    · simp
  | some server =>
    obtain ⟨s₁, s₂, call, hbegin, hpart, howner, hk, hstage⟩ :
        ∃ s₁ s₂ call, Step s₀ (.owner .beginStop) s₁ ∧ Step s₁ (.owner .part) s₂ ∧
          s₂.owner = .parting s₀.calls.length ∧ s₂.calls[s₀.calls.length]? = some call ∧
          call.stage = .issued :=
      ⟨_, _, _, .owner (.beginStop hfree), .owner (.part rfl htransport), rfl,
        List.getElem?_concat_length, rfl⟩
    obtain ⟨actions, s₃, result, hends, -, hactions, hk'⟩ := ends_alone_of_issued hk hstage
    have hothers : ∀ action, .owner action ∉ actions := fun action hmem => by
      obtain ⟨_, he, -⟩ := hactions _ hmem
      cases he
    have howner' := (hends.owner_of_others hothers).trans howner
    refine ⟨.owner .part :: (actions ++ [.owner .hearGoodbye, .owner .exitFails, .owner .detach,
        .owner .halt, .owner .tellStopped]), _,
      ⟨⟨s₁, hbegin, .step hpart <| hends.append <|
        .step (.owner (.hearGoodbye howner' hk' rfl)) <| .step (.owner (.exitFails rfl)) <|
        .step (.owner (.detach rfl)) <| .step (.owner (.halt rfl)) <|
        .step (.owner (.tellStopped rfl)) <| .done _⟩, ?_⟩, ?_, ?_⟩
    · intro a ha
      simp only [List.mem_cons, List.mem_append, List.not_mem_nil, or_false] at ha
      rcases ha with rfl | ha | rfl | rfl | rfl | rfl | rfl
      · rfl
      · obtain ⟨_, rfl, -⟩ := hactions a ha
        rfl
      all_goals rfl
    · simp
    · intro i t action ha
      simp only [List.mem_cons, List.mem_append, List.not_mem_nil, or_false, reduceCtorEq,
        false_or] at ha
      obtain ⟨_, he, -⟩ := hactions _ ha
      cases he

theorem stream_of_condemned {reason : String} (hstage : s.stageOf i = .condemned reason) :
    ∃ st, s.streams[i]? = some st ∧ st.stage = .condemned reason := by
  cases hst : s.streams[i]? with
  | none => rw [stageOf, hst] at hstage; cases hstage
  | some st => exact ⟨st, rfl, (stageOf_eq hst).symm.trans hstage⟩

/-- A reader that found that nobody asked for the end of its server can wait with what it makes of
this until the client is stopped. -/
theorem Run.stops_failed (hfree : s₀.Free) {reason : String}
    (hstage : s₀.stageOf i = .condemned reason) : ∃ parting s, Span .stop s₀ parting s ∧
      .owner .tellStopped ∈ parting ∧ s.client.state = .failed := by
  obtain ⟨parting, s, hspan, htold, hothers⟩ := Run.stops hfree
  have hkept : s.stageOf i = .condemned reason := by
    rw [hspan.whole.stageOf_of_others fun t action hmem => ?_, hstage]
    exact hothers i t action ((List.mem_cons.mp hmem).resolve_left nofun)
  obtain ⟨st, hst, hcondemned⟩ := stream_of_condemned hkept
  obtain ⟨s', haccuses, hstate, -⟩ := Run.accuses hst hcondemned
  exact ⟨_, s', hspan.append haccuses (by simp [Action.isCall]), List.mem_append_left _ htold,
    hstate⟩

/-- How the state of a client and what it tells agree in all schedules. A crash is told before the
start of its server exactly when the reader counts the server as failed and tells so between the
mark of the start and its end; what is told by then is this crash, if there was one, and the start,
and the state is that of the server, as long as no other reader counts a server as failed. A start
that comes to its mark after a server was counted as failed is not told. A client whose stop came to
its end counts as stopped, until the next call, exactly as long as no reader counts its server as
failed behind the halt; and the first reader that does so after the stop began found before that
nobody asked for the end of its server. Both occur: a reader that found this while a start has its
mark can tell of the crash before the start is told, and a client that nobody uses has a stop after
which it does not count as stopped if and only if some reader found this. -/
theorem Run.agreement (h : Run (.initial config) earlier s₀) :
    (∀ during s, Span .start s₀ (during ++ [.owner .tellStarted]) s →
      ((∃ t, .reader s₀.next t .tell ∈ during) ↔ ∃ before window,
        during = before ++ .owner .mark :: window ∧ Outcry s₀.next window) ∧
      (Undisturbed s₀.next during →
        s.client.tidings = s₀.client.tidings ++
            (List.replicate (s.stageOf s₀.next).crashes .crashed ++ [.started]) ∧
          s.client.state = if (s.stageOf s₀.next).hasFailed then .failed else .running)) ∧
    (∀ before after s, Span .start s₀ (before ++ .owner .mark :: after) s → blamed before = true →
      .owner .tellStarted ∉ before ++ .owner .mark :: after) ∧
    (∀ during s reason, Span .start s₀ during s → s.owner = .marked →
      s.stageOf s₀.next = .condemned reason → ∃ t s',
        Span .start s₀ (during ++ [.reader s₀.next t .fail, .reader s₀.next t .tell] ++
          [.owner .tellStarted]) s') ∧
    (∀ parting s, Span .stop s₀ parting s →
      (.owner .tellStopped ∈ parting → ∃ before after,
        parting = before ++ .owner .halt :: after ∧ .owner .tellStopped ∈ after ∧
          s.client.state = if blamed after then .failed else .stopped) ∧
      (blamed parting = true → ∃ before i t after reason,
        parting = before ++ .reader i t .fail :: after ∧ blamed before = false ∧
          s₀.stageOf i = .condemned reason)) ∧
    (s₀.Free →
      ((∃ parting s, Span .stop s₀ parting s ∧ .owner .tellStopped ∈ parting ∧
          s.client.state ≠ .stopped) ↔
        ∃ i reason, s₀.stageOf i = .condemned reason)) := by
  refine ⟨fun during s hspan => ⟨hspan.tell_iff, hspan.told_of_started h⟩, ?_, ?_,
    fun parting s hspan => ⟨hspan.stopping.of_told, hspan.accused⟩, fun hfree => ⟨?_, ?_⟩⟩
  · intro before after s hspan hblamed htold
    rw [hspan.unblamed_of_marked (hspan.progress.marked_of_told htold)] at hblamed
    cases hblamed
  · intro during s reason hspan howner hstage
    obtain ⟨st, hst, hcondemned⟩ := stream_of_condemned hstage
    obtain ⟨s', haccuses, -, howner', -⟩ := Run.accuses hst hcondemned
    have htell := Step.owner (.tellStarted (howner'.trans howner))
    exact ⟨_, _, (hspan.append haccuses (by simp [Action.isCall])).concat htell rfl⟩
  · rintro ⟨parting, s, hspan, htold, hstate⟩
    obtain ⟨before, after, rfl, -, hafter⟩ := hspan.stopping.of_told htold
    have hblamed : blamed (before ++ .owner .halt :: after) = true := by
      cases hb : blamed after with
      | false => rw [hb] at hafter; exact absurd hafter hstate
      | true => rw [blamed_append_halt, hb, Bool.or_true]
    obtain ⟨_, i, _, _, reason, -, -, hcondemned⟩ := hspan.accused hblamed
    exact ⟨i, reason, hcondemned⟩
  · rintro ⟨i, reason, hstage⟩
    obtain ⟨parting, s, hspan, htold, hstate⟩ := Run.stops_failed hfree hstage
    exact ⟨parting, s, hspan, htold, by simp [hstate]⟩

/-- The output of a server ends when its start has the mark, or when it runs and the client is to be
stopped. -/
theorem Run.agreement_crossed :
    (∃ during s, Span .start (.initial (.analyzer "wa")) (during ++ [.owner .tellStarted]) s ∧
      s.client.tidings = [.crashed, .started] ∧ s.client.state = .failed) ∧
    ∃ running s₀ parting s, Run (.initial (.analyzer "wa")) running s₀ ∧
      s₀.client.state = .running ∧ Span .stop s₀ parting s ∧ .owner .tellStopped ∈ parting ∧
      s.client.state ≠ .stopped := by
  obtain ⟨s₁, s, hbegin, hrun, hfree, hstate, -, -, hstreams⟩ := Run.connects
  have hcondemned {s s' : Traffic} (hfresh : s.streams = [.fresh])
      (hstreams : s'.streams = s.streams.set 0 ⟨[], true, false, .condemned Exchange.endOfStream⟩) :
      s'.stageOf 0 = .condemned Exchange.endOfStream := by
    rw [stageOf, hstreams, hfresh]; rfl
  constructor
  · have hlast : handshake = handshake.dropLast ++ [.owner .tellStarted] := rfl
    obtain ⟨s₂, s₃, hmark, htell, hnone⟩ := (hlast ▸ hrun).split_at
    cases hnone
    have hmarked : s₂.owner = .marked ∧ s₂.client.state = .running ∧ s₂.streams = [.fresh] := by
      cases htell with
      | owner htell => cases htell with | tellStarted howner => exact ⟨howner, hstate, hstreams⟩
    obtain ⟨howner, hstate₂, hstreams₂⟩ := hmarked
    obtain ⟨s₃, hcondemns, -, howner₃, -, hstreams₃⟩ := Run.condemns (s := s₂) (i := 0)
      (by rw [hstreams₂]; rfl) (by rw [Client.expectsEnd, hstate₂]; rfl)
    have hspan : Span .start (.initial (.analyzer "wa")) handshake.dropLast s₂ :=
      ⟨⟨s₁, hbegin, hmark⟩, by simp [handshake, Action.isCall]⟩
    obtain ⟨-, -, hcross, -⟩ := Run.agreement (.done (.initial (.analyzer "wa")))
    obtain ⟨t, s₄, hcrossed⟩ := hcross _ s₃ _ (hspan.append hcondemns (by simp [Action.isCall]))
      (howner₃.trans howner) (hcondemned hstreams₂ hstreams₃)
    exact ⟨_, s₄, hcrossed, hcrossed.whole.tidings, hcrossed.progress.state_of_blamed rfl⟩
  · obtain ⟨s₂, hcondemns, hclient, howner, hcalls, hstreams₂⟩ := Run.condemns (s := s) (i := 0)
      (by rw [hstreams]; rfl) (by rw [Client.expectsEnd, hstate]; rfl)
    have h := Run.step hbegin (hrun.append hcondemns)
    obtain ⟨-, -, -, -, hstops⟩ := Run.agreement h
    obtain ⟨parting, s₃, hspan, htold, hleft⟩ :=
      (hstops ⟨howner.trans hfree.1, hcalls ▸ hfree.2⟩).mpr ⟨0, _, hcondemned hstreams hstreams₂⟩
    exact ⟨_, s₂, parting, s₃, h, by rw [hclient]; exact hstate, hspan, htold, hleft⟩

end AnalyzerClient.Traffic
