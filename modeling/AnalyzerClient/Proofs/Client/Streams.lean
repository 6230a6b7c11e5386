import AnalyzerClient.Proofs.Client.Starts
import AnalyzerClient.Proofs.Client.Tidings

/-!
# The readers of the servers

The reader of a server goes on only by actions of its own (`Step.stream_cases`), and it does nothing
any more when it is done (`Run.not_reader_of_done`).
-/

namespace AnalyzerClient.Traffic

variable {s s' : Traffic} {a : Action} {actions : List Action} {i t : Nat} {st st' : Stream}

/-- Whether a reader does nothing any more. -/
def ReaderStage.isDone : ReaderStage → Bool
  | .finished | .broken | .aborted => true
  | _ => false

/-- Whether a reader routes replies, or is to close its table, which fails the requests in it. -/
def ReaderStage.serves : ReaderStage → Bool
  | .reading | .answering _ | .left _ => true
  | _ => false

section Single

variable {c c' : Client} {action : ReaderAction} {parcels : List Parcel}

theorem ReaderStep.not_isDone (h : ReaderStep i c st action c' st' parcels) :
    st.stage.isDone = false := by
  cases h with
  | vanish hdoomed hstage =>
    rcases hstage with hstage | ⟨answer, hstage⟩ <;> rw [hstage] <;> rfl
  | read hstage | answer hstage | answerFails _ hstage | leave hstage | breakDown hstage
  | close hstage | expect hstage | condemn hstage | fail hstage | tell hstage => rw [hstage]; rfl

theorem ReaderStep.doomed_eq (h : ReaderStep i c st action c' st' parcels) :
    st'.doomed = st.doomed := by
  cases h <;> rfl

theorem ReaderStep.doomed_of_aborted (h : ReaderStep i c st action c' st' parcels)
    (hstage : st'.stage = .aborted) : st'.doomed = true := by
  cases h with
  | @read _ _ _ answer => cases answer <;> cases hstage
  | vanish hdoomed => exact hdoomed
  | answer | answerFails | leave | breakDown | close | expect | condemn | fail | tell =>
    cases hstage

end Single

/-- How the stream of a server goes on in a step. -/
inductive Evolves (s : Traffic) (a : Action) (i : Nat) (st st' : Stream) : Prop
  | rests (other : ∀ t action, a ≠ .reader i t action) (stage : st'.stage = st.stage)
      (doomed : st'.doomed = st.doomed)
  | dooms (detach : a = .owner .detach) (stage : st'.stage = st.stage) (doomed : st'.doomed = true)
  | reads {action : ReaderAction} {c : Client} {parcels : List Parcel}
      (own : a = .reader i (s.client.tableOf i) action)
      (step : ReaderStep i s.client st action c st' parcels)

/-- The stream of a server stays, and its reader goes on by its own actions only. -/
theorem Step.stream_cases (h : Step s a s') (hst : s.streams[i]? = some st) :
    ∃ st', s'.streams[i]? = some st' ∧ Evolves s a i st st' := by
  have hlt := (List.getElem?_eq_some_iff.mp hst).1
  -- one stream is replaced by one whose reader is as far
  have replaced {j : Nat} {st₁ st₂ : Stream} (hj : s.streams[j]? = some st₁)
      (ha : ∀ t action, a ≠ .reader i t action) (hstage : st₂.stage = st₁.stage)
      (hdoomed : st₂.doomed = st₁.doomed) :
      ∃ st', (s.streams.set j st₂)[i]? = some st' ∧ Evolves s a i st st' := by
    by_cases hij : j = i
    · subst hij
      cases hj.symm.trans hst
      exact ⟨st₂, List.getElem?_set_self hlt, .rests ha hstage hdoomed⟩
    · exact ⟨st, by rw [List.getElem?_set_ne hij, hst], .rests ha rfl rfl⟩
  cases h with
  | arrive octets hstream hopened => exact replaced hstream (fun _ _ => nofun) rfl rfl
  | hangUp hstream => exact replaced hstream (fun _ _ => nofun) rfl rfl
  | @reader j st₁ st₂ action c parcels hstream hstep =>
    by_cases hij : j = i
    · subst hij
      cases hstream.symm.trans hst
      exact ⟨st₂, List.getElem?_set_self hlt, .reads rfl hstep⟩
    · refine ⟨st, (List.getElem?_set_ne hij).trans hst, .rests (fun t action he => ?_) rfl rfl⟩
      cases he
      exact hij rfl
  | owner hstep =>
    cases hstep with
    | attach =>
      refine ⟨st, ?_, .rests (fun _ _ => nofun) rfl rfl⟩
      rw [List.getElem?_append_left hlt, hst]
    | detach =>
      exact ⟨{ st with doomed := true }, by rw [List.getElem?_map, hst]; rfl, .dooms rfl rfl rfl⟩
    | _ => exact ⟨st, hst, .rests (fun _ _ => nofun) rfl rfl⟩
  | begin | turnAway | notify | notifyFails | call =>
    exact ⟨st, hst, .rests (fun _ _ => nofun) rfl rfl⟩

/-- A stream after a step was there before it, or it is the one of a server that was started. -/
theorem Step.stream_back (h : Step s a s') (hst' : s'.streams[i]? = some st') :
    (∃ st, s.streams[i]? = some st ∧ Evolves s a i st st') ∨
      (a = .owner .attach ∧ i = s.streams.length ∧ st' = .fresh) := by
  by_cases hlt : i < s.streams.length
  · obtain ⟨st'', hst'', hevolves⟩ := h.stream_cases (List.getElem?_eq_getElem hlt)
    cases hst''.symm.trans hst'
    exact .inl ⟨_, List.getElem?_eq_getElem hlt, hevolves⟩
  · have hlt' := (List.getElem?_eq_some_iff.mp hst').1
    by_cases ha : a = .owner .attach
    · subst ha
      cases h with
      | owner hstep =>
        cases hstep with
        | attach =>
          rw [List.length_append, List.length_singleton] at hlt'
          obtain rfl : i = s.streams.length := by omega
          rw [List.getElem?_concat_length] at hst'
          exact .inr ⟨rfl, rfl, (Option.some.inj hst').symm⟩
    · rw [streams_step h ha] at hlt'
      exact absurd hlt' hlt

theorem Step.reader_step {action : ReaderAction} (h : Step s (.reader i t action) s') :
    t = s.client.tableOf i ∧ ∃ st st' c parcels, s.streams[i]? = some st ∧
      s'.streams[i]? = some st' ∧ ReaderStep i s.client st action c st' parcels := by
  cases h with
  | @reader _ st st' _ c parcels hstream hstep =>
    exact ⟨rfl, st, st', c, parcels, hstream,
      List.getElem?_set_self (List.getElem?_eq_some_iff.mp hstream).1, hstep⟩

theorem Step.done_step (h : Step s a s') (hst : s.streams[i]? = some st)
    (hdone : st.stage.isDone = true) :
    (∀ t action, a ≠ .reader i t action) ∧
      ∃ st', s'.streams[i]? = some st' ∧ st'.stage.isDone = true := by
  obtain ⟨st', hst', hevolves⟩ := h.stream_cases hst
  cases hevolves with
  | rests hother hstage => exact ⟨hother, st', hst', hstage ▸ hdone⟩
  | dooms hdetach hstage =>
    subst hdetach
    exact ⟨fun _ _ => nofun, st', hst', hstage ▸ hdone⟩
  | reads hown hstep =>
    rw [hstep.not_isDone] at hdone
    cases hdone

theorem Run.not_reader_of_done (h : Run s actions s') (hst : s.streams[i]? = some st)
    (hdone : st.stage.isDone = true) (action : ReaderAction) : .reader i t action ∉ actions := by
  induction h generalizing st with
  | done => exact List.not_mem_nil
  | step hfirst _ ih =>
    obtain ⟨hother, st₁, hst₁, hdone₁⟩ := hfirst.done_step hst hdone
    rw [List.mem_cons, not_or]
    exact ⟨fun he => hother t action he.symm, ih hst₁ hdone₁⟩

end AnalyzerClient.Traffic
