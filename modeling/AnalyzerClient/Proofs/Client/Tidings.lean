import AnalyzerClient.Proofs.Client.Traffic

/-!
# The state and the tidings

The state of the client and what it tells of the life of its servers are known by the actions
alone: `Action.stateAfter` is what an action makes of the state, and `Action.tidings?` what it
tells. A step does just that (`Step.does`), so that a run tells what its actions tell
(`Run.tidings`).
-/

namespace AnalyzerClient

/-- Something that the client tells of the life of a server. -/
inductive Tidings where
  | started
  | stopped
  | crashed
  deriving DecidableEq, Repr

/-- What an event tells of the life of a server. -/
def ClientEvent.tidings? : ClientEvent → Option Tidings
  | .started _ => some .started
  | .stopped _ => some .stopped
  | .crashed _ _ => some .crashed
  | .notice _ => none

namespace Client

variable {c c' c'' : Client}

/-- What the client told of the lives of its servers, the oldest first. -/
def tidings (c : Client) : List Tidings := c.events.filterMap ClientEvent.tidings?

theorem tidings_emit (c : Client) (e : ClientEvent) :
    (c.emit e).tidings = c.tidings ++ e.tidings?.toList := by
  rw [tidings, emit, List.filterMap_append, List.filterMap_cons, tidings]
  cases e.tidings? <;> rfl

/-- Two clients with the same state, which told the same of their servers. -/
structure Calm (c c' : Client) : Prop where
  state : c'.state = c.state
  tidings : c'.tidings = c.tidings

theorem Calm.refl (c : Client) : Calm c c := ⟨rfl, rfl⟩

theorem Calm.trans (h : Calm c c') (h' : Calm c' c'') : Calm c c'' :=
  ⟨h'.state.trans h.state, h'.tidings.trans h.tidings⟩

theorem calm_note (c : Client) (line : String) : Calm c (c.note line) := ⟨rfl, rfl⟩

theorem calm_trace (c : Client) (message : Json) : Calm c (c.trace message) := by
  rw [trace]
  split
  · exact .refl c
  · exact calm_note ..
  · exact calm_note ..

theorem calm_notice (c : Client) (notice : Protocol.Notice) : Calm c (c.emit (.notice notice)) :=
  ⟨rfl, (tidings_emit ..).trans (List.append_nil _)⟩

theorem calm_handleResponse (c : Client) (t : Nat) (id : Int) (reply : Reply) :
    Calm c (c.handleResponse t id reply) := by
  rw [handleResponse]
  split <;> exact ⟨rfl, rfl⟩

theorem calm_handle (c : Client) (server : Nat) (message : Json) :
    Calm c (c.handle server message).1 := by
  refine (calm_trace c message).trans ?_
  rw [handle]
  generalize c.trace message = c
  split
  · exact calm_note ..
  · exact calm_handleResponse ..
  · split
    · exact calm_notice ..
    · exact .refl c
  · exact .refl c

theorem calm_register {id : Int} (h : c.register id = .ok c') : Calm c c' := by
  rw [register] at h
  cases htable : c.current.register id with
  | error e => rw [htable] at h; cases h
  | ok table => rw [htable] at h; cases h; exact ⟨rfl, rfl⟩

theorem markRunning_eq_ok (h : c.markRunning = .ok c') :
    c.state = .starting ∧ c' = c.setState .running := by
  rw [markRunning] at h
  split at h
  case isTrue hstarting => exact ⟨hstarting, (Except.ok.inj h).symm⟩
  case isFalse => cases h

theorem markRunning_eq_error {e : Protocol.Error} (h : c.markRunning = .error e) :
    c.state ≠ .starting := by
  intro hstarting
  rw [markRunning, if_pos hstarting] at h
  cases h

end Client

namespace Traffic

open Client (Calm)

variable {s s' : Traffic} {a : Action} {actions before after : List Action}

/-- What an action makes of the state of the client. -/
def Action.stateAfter (state : ServerState) : Action → ServerState
  | .owner .beginStart => .starting
  | .owner .spawnFails | .owner .fail => .failed
  | .owner .mark => if state = .starting then .running else state
  | .owner .beginStop => .shuttingDown
  | .owner .halt => .stopped
  | .reader _ _ .fail => .failed
  | _ => state

/-- What an action tells of the life of a server. -/
def Action.tidings? : Action → Option Tidings
  | .owner .tellStarted => some .started
  | .owner .tellStopped => some .stopped
  | .reader _ _ .tell => some .crashed
  | _ => none

/-- The step changes the state and tells what its action says. -/
structure Action.Does (a : Action) (s s' : Traffic) : Prop where
  state : s'.client.state = a.stateAfter s.client.state
  tidings : s'.client.tidings = s.client.tidings ++ a.tidings?.toList

theorem Action.does_of_calm (hstate : ∀ state, a.stateAfter state = state)
    (htidings : a.tidings? = none) (h : Calm s.client s'.client) : a.Does s s' :=
  ⟨h.state.trans (hstate _).symm, by rw [h.tidings, htidings]; exact (List.append_nil _).symm⟩

theorem CallStep.calm {k : Nat} {c c' : Client} {call : Call} {action : CallAction} {stage : Stage}
    {parcels : List Parcel} (h : CallStep k c call action c' stage parcels) : Calm c c' := by
  cases h with
  | register hstage hok => exact (Client.calm_register hok).trans (Client.calm_note ..)
  | withdraw => exact ⟨rfl, rfl⟩
  | refuse | write | writeFails | receive | drop => exact .refl c

theorem ReaderStep.does {server t : Nat} {st st' : Stream} {action : ReaderAction} {c : Client}
    {parcels : List Parcel} (h : ReaderStep server s.client st action c st' parcels)
    (hs : s'.client = c) : Action.Does (.reader server t action) s s' := by
  have calm {action : ReaderAction} (hstate : ∀ state,
      (Action.reader server t action).stateAfter state = state)
      (htidings : (Action.reader server t action).tidings? = none) (hc : Calm s.client c) :
      Action.Does (.reader server t action) s s' :=
    Action.does_of_calm hstate htidings (hs ▸ hc)
  cases h with
  | @read message _ c answer _ _ hhandle =>
    have hcalm := Client.calm_handle s.client server message
    rw [hhandle] at hcalm
    exact calm (fun _ => rfl) rfl hcalm
  | answerFails => exact calm (fun _ => rfl) rfl (Client.calm_note ..)
  | close => exact calm (fun _ => rfl) rfl ⟨rfl, rfl⟩
  | answer | leave | breakDown | expect | condemn | vanish =>
    exact calm (fun _ => rfl) rfl (.refl _)
  | fail => exact ⟨hs ▸ rfl, hs ▸ (List.append_nil _).symm⟩
  | tell => exact ⟨hs ▸ rfl, hs ▸ Client.tidings_emit ..⟩

theorem OwnerStep.does {action : OwnerAction} (h : OwnerStep s action s') :
    Action.Does (.owner action) s s' := by
  cases h with
  | beginStart | spawnFails | fail | beginStop | halt => exact ⟨rfl, (List.append_nil _).symm⟩
  | @mark c owner running =>
    obtain ⟨hstarting, rfl⟩ := Client.markRunning_eq_ok running
    exact ⟨(if_pos hstarting).symm, (List.append_nil _).symm⟩
  | markFails owner running =>
    exact ⟨(if_neg (Client.markRunning_eq_error running)).symm, (List.append_nil _).symm⟩
  | tellStarted | tellStopped => exact ⟨rfl, Client.tidings_emit ..⟩
  | @accept k call value info =>
    refine Action.does_of_calm (fun _ => rfl) rfl ?_
    cases info with
    | none => exact .refl _
    | some info => exact Client.calm_note ..
  | @hearGoodbye k call result =>
    refine Action.does_of_calm (fun _ => rfl) rfl ?_
    dsimp only
    split
    · exact Client.calm_note ..
    · exact .refl _
  | attach | introduce | part | detach =>
    exact Action.does_of_calm (fun _ => rfl) rfl ⟨rfl, rfl⟩
  | acknowledge | skip | sayExit | exitFails | abandon =>
    exact Action.does_of_calm (fun _ => rfl) rfl (.refl _)

theorem Step.does (h : Step s a s') : a.Does s s' := by
  cases h with
  | call hcalled hstep => exact Action.does_of_calm (fun _ => rfl) rfl hstep.calm
  | reader hstream hstep => exact hstep.does rfl
  | owner hstep => exact hstep.does
  | begin => exact Action.does_of_calm (fun _ => rfl) rfl ⟨rfl, rfl⟩
  | turnAway | notify | notifyFails | arrive | hangUp =>
    exact Action.does_of_calm (fun _ => rfl) rfl (.refl _)

theorem Run.tidings (h : Run s actions s') :
    s'.client.tidings = s.client.tidings ++ actions.filterMap Action.tidings? := by
  induction h with
  | done => exact (List.append_nil _).symm
  | @step s s₁ s' a actions hfirst _ ih =>
    rw [ih, hfirst.does.tidings, List.append_assoc, List.filterMap_cons]
    cases a.tidings? <;> rfl

/-! ## Where the owner stands -/

/-- Whether the owner can do something where it stands. -/
def OwnerAction.startsAt : OwnerAction → Owner → Bool
  | .beginStart, .idle | .spawnFails, .tabled | .attach, .tabled | .introduce _ _, .attached
  | .accept _, .introducing _ | .acknowledge, .introduced | .mark, .acknowledged
  | .tellStarted, .marked | .fail, .introducing _ | .fail, .introduced | .beginStop, .idle
  | .part, .stopping | .skip, .stopping | .hearGoodbye, .parting _ | .sayExit, .parted
  | .exitFails, .parted | .detach, .leaving | .halt, .detached | .tellStopped, .halted
  | .abandon, .introducing _ | .abandon, .introduced | .abandon, .parting _ | .abandon, .parted
  | .abandon, .leaving => true
  | _, _ => false

theorem OwnerStep.startsAt {action : OwnerAction} (h : OwnerStep s action s') :
    action.startsAt s.owner = true := by
  cases h with
  | beginStart hfree | beginStop hfree => rw [hfree.1]; rfl
  | fail hwhere => rcases hwhere with hwhere | ⟨k, hwhere, -⟩ <;> rw [hwhere] <;> rfl
  | abandon hfree hwhere =>
    rcases hwhere with hwhere | hwhere | hwhere | ⟨k, hwhere | hwhere⟩ <;> rw [hwhere] <;> rfl
  | spawnFails hwhere | attach hwhere | introduce _ _ hwhere | accept hwhere | acknowledge hwhere
  | mark hwhere | markFails hwhere | tellStarted hwhere | part hwhere | skip hwhere
  | hearGoodbye hwhere | sayExit hwhere | exitFails hwhere | detach hwhere | halt hwhere
  | tellStopped hwhere => rw [hwhere]; rfl

/-! ## Parts of runs -/

theorem Run.split (h : Run s (before ++ after) s') : ∃ s₁, Run s before s₁ ∧ Run s₁ after s' := by
  induction before generalizing s with
  | nil => exact ⟨s, .done s, h⟩
  | cons a before ih =>
    cases h with
    | step hfirst hrest =>
      obtain ⟨s₁, hbefore, hafter⟩ := ih hrest
      exact ⟨s₁, .step hfirst hbefore, hafter⟩

theorem Run.split_at (h : Run s (before ++ a :: after) s') :
    ∃ s₁ s₂, Run s before s₁ ∧ Step s₁ a s₂ ∧ Run s₂ after s' := by
  obtain ⟨s₁, hbefore, hrest⟩ := h.split
  cases hrest with
  | step hstep hafter => exact ⟨s₁, _, hbefore, hstep, hafter⟩

/-- What holds at the beginning of a run and is kept by each of its steps holds at its end. The
property may speak of the actions so far. -/
theorem Run.induct {P : List Action → Traffic → Prop} (h : Run s actions s') (done : P [] s)
    (step : ∀ {before s₁ a s₂}, P before s₁ → a ∈ actions → Step s₁ a s₂ → P (before ++ [a]) s₂) :
    P actions s' := by
  induction h generalizing P with
  | done => exact done
  | @step s s₁ s' a actions hfirst _ ih =>
    refine ih (P := fun before s => P (a :: before) s) (step done List.mem_cons_self hfirst) ?_
    intro before s₁ a' s₂ hP ha' hstep
    exact step hP (List.mem_cons_of_mem _ ha') hstep

end Traffic

end AnalyzerClient
