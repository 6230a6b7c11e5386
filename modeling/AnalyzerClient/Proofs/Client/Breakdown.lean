import AnalyzerClient.Proofs.Client.Answers
import AnalyzerClient.Proofs.Client.Lifetime
import AnalyzerClient.Proofs.Protocol.Declared

/-!
# Readers that come to their end

The reader of a server has only so much to do (`Stream.work`), and it goes on until it is done or
waits for more octets. It closes its table on the way, unless it is stopped from outside or breaks
down; and it breaks down only at a header with a length that no memory holds (`Run.reader_ends`).
-/

namespace AnalyzerClient.Traffic

open AnalyzerClient.Protocol (Error Frame.Holds Frame.Overflows Frame.maxLength Frame.read
  Frame.readAll Frame.readHeaders)

variable {s s' : Traffic} {a : Action} {actions : List Action} {i t n : Nat} {st st' : Stream}

/-! ## Work -/

/-- How many actions the reader of a stream can still do. It answers at most one message for each
octet, and a message takes more than one. -/
def Stream.work (st : Stream) : Nat :=
  match st.stage with
  | .reading => 2 * st.octets.length + 5
  | .answering _ => 2 * st.octets.length + 6
  | .left _ => 4
  | .closed _ => 3
  | .condemned _ => 2
  | .failed _ => 1
  | .finished | .broken | .aborted => 0

section Single

variable {c c' : Client} {action : ReaderAction} {parcels : List Parcel}

/-- An action of a reader is part of its work. -/
theorem ReaderStep.work_lt (h : ReaderStep i c st action c' st' parcels) : st'.work < st.work := by
  cases h with
  | @read message rest c' answer hstage hread hhandle =>
    have hshorter := Protocol.Frame.length_read hread
    cases answer with
    | none => simp only [Stream.work, hstage, Option.elim_none]; omega
    | some answer => simp only [Stream.work, hstage, Option.elim_some]; omega
  | answer hstage | answerFails _ hstage => simp only [Stream.work, hstage]; omega
  | leave hstage | breakDown hstage => simp only [Stream.work, hstage]; omega
  | vanish hdoomed hstage =>
    rcases hstage with hstage | ⟨answer, hstage⟩ <;> simp only [Stream.work, hstage] <;> omega
  | close hstage | expect hstage | condemn hstage | fail hstage | tell hstage =>
    simp only [Stream.work, hstage]; omega

/-- A reader that closed its table did so for good. -/
theorem ReaderStep.hasClosed (h : ReaderStep i c st action c' st' parcels)
    (hclosed : st.stage.hasClosed = true) : st'.stage.hasClosed = true := by
  cases h with
  | vanish hdoomed hstage =>
    rcases hstage with hstage | ⟨answer, hstage⟩ <;> rw [hstage] at hclosed <;> cases hclosed
  | read hstage | answer hstage | answerFails _ hstage | leave hstage | breakDown hstage
  | close hstage => rw [hstage] at hclosed; cases hclosed
  | expect | condemn | fail | tell => rfl

end Single

/-- A reader that is not done can go on, unless it waits for more octets. -/
theorem Step.exists_reader (hst : s.streams[i]? = some st) (hdone : st.stage.isDone = false) :
    (∃ action s', action ≠ .vanish ∧ Step s (.reader i (s.client.tableOf i) action) s') ∨
      (st.ended = false ∧ Frame.read false st.octets = .waiting) := by
  cases hstage : st.stage with
  | finished | broken | aborted => rw [hstage] at hdone; cases hdone
  | answering answer => exact .inl ⟨.answer, _, nofun, .reader hst (.answer hstage)⟩
  | left reason => exact .inl ⟨.close, _, nofun, .reader hst (.close hstage)⟩
  | condemned reason => exact .inl ⟨.fail, _, nofun, .reader hst (.fail hstage)⟩
  | failed reason => exact .inl ⟨.tell, _, nofun, .reader hst (.tell hstage)⟩
  | closed reason =>
    by_cases hexpected : s.client.expectsEnd = true
    · exact .inl ⟨.expect, _, nofun, .reader hst (.expect hstage hexpected)⟩
    · exact .inl ⟨.condemn, _, nofun, .reader hst (.condemn hstage hexpected)⟩
  | reading =>
    cases hread : Frame.read st.ended st.octets with
    | message message rest =>
      exact .inl ⟨.read message, _, nofun, .reader hst (.read hstage hread rfl)⟩
    | finished => exact .inl ⟨.leave _, _, nofun, .reader hst (.leave hstage (.finished hread))⟩
    | failed e => exact .inl ⟨.leave _, _, nofun, .reader hst (.leave hstage (.failed hread))⟩
    | breakdown n => exact .inl ⟨.breakDown, _, nofun, .reader hst (.breakDown hstage hread)⟩
    | waiting =>
      cases hended : st.ended with
      | true => exact absurd (hended ▸ hread) (Protocol.Frame.read_true_ne_waiting _)
      | false => exact .inr ⟨rfl, hended ▸ hread⟩

/-- More octets are more work only for a reader that reads. -/
theorem Stream.work_append {more : List UInt8} (hstage : st'.stage = st.stage)
    (hoctets : st'.octets = st.octets ++ more) : st'.work ≤ st.work + 2 * more.length := by
  rw [work, work, hstage, hoctets, List.length_append]
  cases st.stage <;> simp only <;> omega

/-- What a step adds to the work of a reader is what arrives, and an action of the reader takes
something away. -/
theorem Step.work_le (h : Step s a s') (hst : s.streams[i]? = some st) :
    ∃ st', s'.streams[i]? = some st' ∧
      (a.ofReader? i).toList.length + st'.work ≤ st.work + 2 * (a.arrived i).length := by
  obtain ⟨st', hst', hevolves⟩ := h.stream_cases hst
  refine ⟨st', hst', ?_⟩
  have other (ha : ∀ t action, a ≠ .reader i t action) (hstage : st'.stage = st.stage) :
      (a.ofReader? i).toList.length + st'.work ≤ st.work + 2 * (a.arrived i).length := by
    have hwork := Stream.work_append hstage (h.octets_eq hst hst' ha)
    rw [ofReader?_eq_none ha, Option.toList_none, List.length_nil, Nat.zero_add]
    exact hwork
  cases hevolves with
  | rests ha hstage => exact other ha hstage
  | dooms ha hstage => exact other (by rw [ha]; nofun) hstage
  | reads ha hstep =>
    have hless := hstep.work_lt
    rw [ha, ofReader?_self, Option.toList_some, List.length_singleton]
    omega

/-- The reader of a server does no more than what there was to do at first and what arrived. -/
theorem Run.work_le (h : Run s actions s') (hst : s.streams[i]? = some st) :
    ∃ st', s'.streams[i]? = some st' ∧ (actions.filterMap (·.ofReader? i)).length + st'.work ≤
      st.work + 2 * (actions.flatMap (·.arrived i)).length := by
  refine h.induct (P := fun before s₁ => ∃ st₁, s₁.streams[i]? = some st₁ ∧
    (before.filterMap (·.ofReader? i)).length + st₁.work ≤
      st.work + 2 * (before.flatMap (·.arrived i)).length) ⟨st, hst, by simp⟩ ?_
  rintro before s₁ a s₂ ⟨st₁, hst₁, hbefore⟩ - hstep
  obtain ⟨st₂, hst₂, hwork⟩ := hstep.work_le hst₁
  refine ⟨st₂, hst₂, ?_⟩
  rw [filterMap_concat, List.length_append, List.flatMap_append, List.length_append,
    List.flatMap_singleton]
  omega

/-! ## What a reader did -/

/-- The reader of a server stays where it is, unless it does something. -/
theorem Step.stageOf_cases (h : Step s a s') (i : Nat) :
    s'.stageOf i = s.stageOf i ∨
      ∃ t action c c' st st' parcels, a = .reader i t action ∧
        ReaderStep i c st action c' st' parcels ∧
        s.stageOf i = st.stage ∧ s'.stageOf i = st'.stage := by
  by_cases hown : ∃ t action, a = .reader i t action
  · obtain ⟨t, action, rfl⟩ := hown
    obtain ⟨-, st, st', c, parcels, hst, hst', hread⟩ := h.reader_step
    exact .inr ⟨t, action, _, c, st, st', parcels, rfl, hread, stageOf_eq hst, stageOf_eq hst'⟩
  · exact .inl (h.stageOf_of_other fun t action ha => hown ⟨t, action, ha⟩)

/-- What a reader has behind it, it did. -/
theorem Run.mem_of_stageOf {p : ReaderStage → Bool} {q : ReaderAction → Prop}
    (hp : ∀ {c c' : Client} {st st' : Stream} {action : ReaderAction} {parcels : List Parcel},
      ReaderStep i c st action c' st' parcels → p st'.stage = true → p st.stage = true ∨ q action)
    (h : Run s actions s') (hbefore : p (s.stageOf i) = false) (hafter : p (s'.stageOf i) = true) :
    ∃ t action, .reader i t action ∈ actions ∧ q action := by
  have hrun : p (s'.stageOf i) = true → ∃ t action, .reader i t action ∈ actions ∧ q action := by
    refine h.induct (P := fun before s₁ => p (s₁.stageOf i) = true →
      ∃ t action, .reader i t action ∈ before ∧ q action) ?_ ?_
    · rw [hbefore]
      nofun
    · intro before s₁ a s₂ hbefore _ hstep hafter
      have earlier (h : p (s₁.stageOf i) = true) :
          ∃ t action, .reader i t action ∈ before ++ [a] ∧ q action := by
        obtain ⟨t, action, hmem, hq⟩ := hbefore h
        exact ⟨t, action, List.mem_append_left _ hmem, hq⟩
      rcases hstep.stageOf_cases i with
        hsame | ⟨t, action, c, c', st₁, st₂, parcels, rfl, hread, hst₁, hst₂⟩
      · exact earlier (hsame ▸ hafter)
      · rcases hp hread (hst₂ ▸ hafter) with hp | hq
        · exact earlier (hst₁.symm ▸ hp)
        · exact ⟨t, action, List.mem_append_right _ (List.mem_singleton_self _), hq⟩
  exact hrun hafter

theorem Run.mem_of_stage {p : ReaderStage → Bool} {q : ReaderAction → Prop}
    (hp : ∀ {c c' : Client} {st st' : Stream} {action : ReaderAction} {parcels : List Parcel},
      ReaderStep i c st action c' st' parcels → p st'.stage = true → p st.stage = true ∨ q action)
    (h : Run s actions s') (hst : s.streams[i]? = some st) (hbefore : p st.stage = false)
    (hst' : s'.streams[i]? = some st') (hafter : p st'.stage = true) :
    ∃ t action, .reader i t action ∈ actions ∧ q action :=
  h.mem_of_stageOf hp (by rw [stageOf_eq hst, hbefore]) (by rw [stageOf_eq hst', hafter])

/-- Nothing arrives any more from a server whose output ended. -/
theorem Step.ended (h : Step s a s') (hst : s.streams[i]? = some st) (hended : st.ended = true) :
    a.arrived i = [] ∧ ∃ st', s'.streams[i]? = some st' ∧ st'.ended = true := by
  have hlt := (List.getElem?_eq_some_iff.mp hst).1
  -- one stream is replaced by one that ended if the other one did
  have replaced {j : Nat} {st₁ st₂ : Stream} (hj : s.streams[j]? = some st₁)
      (hkeeps : j = i → st₁.ended = true → st₂.ended = true) :
      ∃ st', (s.streams.set j st₂)[i]? = some st' ∧ st'.ended = true := by
    by_cases hij : j = i
    · subst hij
      cases hj.symm.trans hst
      exact ⟨st₂, List.getElem?_set_self hlt, hkeeps rfl hended⟩
    · exact ⟨st, by rw [List.getElem?_set_ne hij, hst], hended⟩
  cases h with
  | @arrive j st₁ octets hstream hopened =>
    have hij : j ≠ i := by
      rintro rfl
      cases hstream.symm.trans hst
      rw [hended] at hopened
      cases hopened
    exact ⟨if_neg hij, replaced hstream fun he => absurd he hij⟩
  | hangUp hstream => exact ⟨rfl, replaced hstream fun _ _ => rfl⟩
  | reader hstream hstep =>
    exact ⟨rfl, replaced hstream fun _ hended => by cases hstep <;> exact hended⟩
  | owner hstep =>
    refine ⟨rfl, ?_⟩
    cases hstep with
    | attach => exact ⟨st, by rw [List.getElem?_append_left hlt, hst], hended⟩
    | detach => exact ⟨{ st with doomed := true }, by rw [List.getElem?_map, hst]; rfl, hended⟩
    | _ => exact ⟨st, hst, hended⟩
  | begin | turnAway | notify | notifyFails | call => exact ⟨rfl, st, hst, hended⟩

theorem Run.arrived_of_ended (h : Run s actions s') (hst : s.streams[i]? = some st)
    (hended : st.ended = true) : actions.flatMap (·.arrived i) = [] := by
  induction h generalizing st with
  | done => rfl
  | step hfirst _ ih =>
    obtain ⟨hnone, st₁, hst₁, hended₁⟩ := hfirst.ended hst hended
    rw [List.flatMap_cons, hnone, ih hst₁ hended₁]
    rfl

/-- All that a server sends: what is there, and what arrives in the given actions. -/
def Stream.sent (st : Stream) (i : Nat) (actions : List Action) : List UInt8 :=
  st.octets ++ actions.flatMap (·.arrived i)

/-- What a reader finds when it does something. Of all that the server sends, before and later, it
has read some messages; and what it would read next, it would read as well if it had waited for the
end. -/
theorem Run.reads_at {action : ReaderAction} (h : Run s actions s')
    (hst : s.streams[i]? = some st) (hmem : .reader i t action ∈ actions) :
    ∃ c c' st₁ st₂ parcels vs rest more, ReaderStep i c st₁ action c' st₂ parcels ∧
      Frame.Holds (st.sent i actions) vs rest ∧
      (Frame.read st₁.ended st₁.octets ≠ .waiting →
        Frame.read true rest = (Frame.read st₁.ended st₁.octets).extend more) := by
  obtain ⟨before, after, rfl⟩ := List.append_of_mem hmem
  obtain ⟨s₁, s₂, hbefore, hstep, hafter⟩ := h.split_at
  obtain ⟨-, st₁, st₂, c, parcels, hst₁, hst₂, hread⟩ := hstep.reader_step
  obtain ⟨st₁', tries, left, H⟩ := hbefore.account hst
  cases hst₁.symm.trans H.stream
  have hholds := H.holds.append (after.flatMap (·.arrived i))
  rw [List.append_assoc, ← List.flatMap_append] at hholds
  have hsent : st.sent i (before ++ .reader i t action :: after) =
      st.octets ++ (before ++ after).flatMap (·.arrived i) := by
    rw [Stream.sent, List.flatMap_append, List.flatMap_append]
    rfl
  refine ⟨s₁.client, c, st₁, st₂, parcels, _, _, after.flatMap (·.arrived i), hread,
    hsent ▸ hholds, fun hnext => ?_⟩
  cases hended : st₁.ended with
  | false => exact Protocol.Frame.read_of_open (hended ▸ hnext) true _
  | true =>
    obtain ⟨-, st₂', hst₂', hended₂⟩ := hstep.ended hst₁ hended
    rw [hafter.arrived_of_ended hst₂' hended₂, List.append_nil, Protocol.Frame.Reading.extend_nil]

/-- A reader breaks down only where the stream overflows. -/
theorem Run.overflows (h : Run s actions s') (hst : s.streams[i]? = some st)
    (hreading : st.stage = .reading) (hst' : s'.streams[i]? = some st')
    (hbroken : st'.stage = .broken) : ∃ n, Frame.Overflows (st.sent i actions) n := by
  obtain ⟨t, action, hmem, rfl⟩ :
      ∃ t action, .reader i t action ∈ actions ∧ action = .breakDown := by
    refine h.mem_of_stage (p := fun stage => stage matches .broken) ?_ hst (by rw [hreading]) hst'
      (by rw [hbroken])
    intro c c' st st' action parcels hstep hafter
    cases hstep with
    | @read _ _ _ answer => cases answer <;> cases hafter
    | breakDown => exact .inr rfl
    | answer | answerFails | leave | close | expect | condemn | fail | tell | vanish => cases hafter
  obtain ⟨c, c', st₁, st₂, parcels, vs, rest, more, hstep, hholds, hread⟩ := h.reads_at hst hmem
  cases hstep with
  | @breakDown n hstage hbreaks =>
    rw [hbreaks] at hread
    exact ⟨n, vs, rest, hholds, hread nofun⟩

/-- The reader of a stream that overflows leaves its loop only when it cannot read at all. -/
theorem Run.leave_of_overflows {reason : String} (h : Run s actions s')
    (hst : s.streams[i]? = some st) (hmem : .reader i t (.leave reason) ∈ actions)
    (hoverflows : Frame.Overflows (st.sent i actions) n) :
    ∃ cause, reason = (Error.transport cause).message := by
  obtain ⟨c, c', st₁, st₂, parcels, vs, rest, more, hstep, hholds, hread⟩ := h.reads_at hst hmem
  -- a reader of octets that are at their end or wrong reads neither a message nor a length
  have hnext := hoverflows.read_cases hholds
  cases hstep with
  | leave hstage hends =>
    cases hends with
    | unreadable cause => exact ⟨cause, rfl⟩
    | finished hfinished =>
      rw [hfinished] at hread
      rw [hread nofun] at hnext
      rcases hnext with ⟨v, rest, hnext⟩ | hnext <;> cases hnext
    | failed hfailed =>
      rw [hfailed] at hread
      rw [hread nofun] at hnext
      rcases hnext with ⟨v, rest, hnext⟩ | hnext <;> cases hnext

/-- What a reader has behind it when its table is closed. -/
theorem Run.close_of_hasClosed (h : Run s actions s') (hst : s.streams[i]? = some st)
    (hreading : st.stage = .reading) (hst' : s'.streams[i]? = some st')
    (hclosed : st'.stage.hasClosed = true) : ∃ t, .reader i t .close ∈ actions := by
  obtain ⟨t, action, hmem, rfl⟩ := h.mem_of_stage (q := (· = .close))
    (fun h hclosed => (h.hasClosed_cases hclosed).symm) hst (by rw [hreading]; rfl) hst' hclosed
  exact ⟨t, hmem⟩

/-- A reader that closed its table left its loop before. -/
theorem Run.leave_of_close (h : Run s actions s') (hst : s.streams[i]? = some st)
    (hreading : st.stage = .reading) (hmem : .reader i t .close ∈ actions) :
    ∃ t reason, .reader i t (.leave reason) ∈ actions := by
  obtain ⟨before, after, rfl⟩ := List.append_of_mem hmem
  obtain ⟨s₁, s₂, hbefore, hstep, -⟩ := h.split_at
  obtain ⟨-, st₁, st₂, c, parcels, hst₁, -, hclose⟩ := hstep.reader_step
  cases hclose with
  | @close reason hstage =>
    obtain ⟨t', action, hmem', reason', rfl⟩ := hbefore.mem_of_stage (p := ReaderStage.hasLeft)
      (q := fun action => ∃ reason, action = .leave reason)
      (fun h hleft => h.hasLeft_cases hleft |>.imp_right fun ⟨reason, he, _⟩ => ⟨reason, he⟩)
      hst (by rw [hreading]; rfl) hst₁ (by rw [hstage]; rfl)
    exact ⟨t', reason', List.mem_append_left _ hmem'⟩

/-- A reader that closed its table does not break down. -/
theorem Run.hasClosed_of_close (h : Run s actions s') (hst' : s'.streams[i]? = some st')
    (hmem : .reader i t .close ∈ actions) : st'.stage.hasClosed = true := by
  obtain ⟨before, after, rfl⟩ := List.append_of_mem hmem
  obtain ⟨s₁, s₂, -, hstep, hafter⟩ := h.split_at
  obtain ⟨-, st₁, st₂, c, parcels, -, hst₂, hclose⟩ := hstep.reader_step
  have hclosed : s₂.stageOf i = st₂.stage := stageOf_eq hst₂
  have hlater : (s'.stageOf i).hasClosed = true := by
    refine hafter.induct (P := fun _ s => (s.stageOf i).hasClosed = true) ?_ ?_
    · rw [hclosed]
      cases hclose
      rfl
    · intro before s₁ a s₂ hbefore _ hstep
      rcases hstep.stageOf_cases i with hsame | ⟨_, _, _, _, _, _, _, -, hread, hst₁, hst₂⟩
      · rwa [hsame]
      · rw [hst₁] at hbefore
        rw [hst₂]
        exact hread.hasClosed hbefore
  rwa [stageOf_eq hst'] at hlater

/-- A reader is stopped from outside only by a stop of its server. -/
theorem Run.detach_of_aborted (h : Run s actions s') (hst : s.streams[i]? = some st)
    (hreading : st.stage = .reading) (hst' : s'.streams[i]? = some st')
    (haborted : st'.stage = .aborted) : st.doomed = true ∨ .owner .detach ∈ actions := by
  obtain ⟨st₁, hst₁, hdoomed, hstops⟩ : ∃ st₁, s'.streams[i]? = some st₁ ∧
      (st₁.doomed = true → st.doomed = true ∨ .owner .detach ∈ actions) ∧
      (st₁.stage = .aborted → st₁.doomed = true) := by
    refine h.induct (P := fun before s₁ => ∃ st₁, s₁.streams[i]? = some st₁ ∧
      (st₁.doomed = true → st.doomed = true ∨ .owner .detach ∈ before) ∧
      (st₁.stage = .aborted → st₁.doomed = true)) ⟨st, hst, .inl, by rw [hreading]; nofun⟩ ?_
    rintro before s₁ a s₂ ⟨st₁, hst₁, hdoomed, hstops⟩ - hstep
    obtain ⟨st₂, hst₂, hevolves⟩ := hstep.stream_cases hst₁
    have earlier (h : st₁.doomed = true) :
        st.doomed = true ∨ .owner .detach ∈ before ++ [a] :=
      (hdoomed h).imp_right (List.mem_append_left _)
    refine ⟨st₂, hst₂, ?_⟩
    cases hevolves with
    | rests _ hstage hsame =>
      exact ⟨fun h => earlier (hsame ▸ h), fun h => hsame ▸ hstops (hstage ▸ h)⟩
    | dooms ha _ hnow =>
      exact ⟨fun _ => .inr (List.mem_append_right _ (ha ▸ List.mem_singleton_self _)),
        fun _ => hnow⟩
    | reads _ hread =>
      exact ⟨fun h => earlier (hread.doomed_eq ▸ h), hread.doomed_of_aborted⟩
  cases hst₁.symm.trans hst'
  exact hdoomed (hstops haborted)

/-- The reader of a server, whatever the server sends and whatever happens in between. Wherever it
stands in front of a header that comes to a length, it breaks down if no memory holds so many
octets; else it does not break down there, and a length that exceeds what is left of a closed stream
is an error. It takes a bounded number of actions, and it can go on until it is done or waits for
more octets. When it is done it has closed its table, unless it was stopped together with its server
or broke down. It breaks down only if reading the whole stream ends at a length that no memory
holds, and then it never closes its table; and if the stream ends so, only a failure of the
connection lets the reader close its table before it gets there. -/
theorem Run.reaches_close (hst : s.streams[i]? = some st) (hreading : st.stage = .reading)
    (h : Run s actions s') :
    (∀ closed octets n behind, Frame.readHeaders closed none octets = .length (some n) behind →
      (Frame.maxLength ≤ n → Frame.read closed octets = .breakdown n) ∧
      (n < Frame.maxLength → (∀ m, Frame.read closed octets ≠ .breakdown m) ∧
        (behind.length < n → Frame.read closed octets =
          if closed then .failed (.transport .earlyEnd) else .waiting))) ∧
    ∃ st', s'.streams[i]? = some st' ∧
      (actions.filterMap (·.ofReader? i)).length ≤ 2 * (st.sent i actions).length + 5 ∧
      (st'.stage.isDone = true ∨
        (∃ action s'', action ≠ .vanish ∧
          Step s' (.reader i (s'.client.tableOf i) action) s'') ∨
        (st'.ended = false ∧ Frame.read false st'.octets = .waiting)) ∧
      (st'.stage = .finished → ∃ t, .reader i t .close ∈ actions) ∧
      (st'.stage = .aborted → st.doomed = true ∨ .owner .detach ∈ actions) ∧
      (st'.stage = .broken → (∃ n, (Frame.readAll (st.sent i actions)).2 = .breakdown n) ∧
        ∀ t, .reader i t .close ∉ actions) ∧
      ∀ n, (Frame.readAll (st.sent i actions)).2 = .breakdown n →
        ∀ t, .reader i t .close ∈ actions →
          ∃ t cause, .reader i t (.leave (Error.transport cause).message) ∈ actions := by
  constructor
  · intro closed octets n behind hheaders
    refine ⟨fun hlength => Protocol.Frame.read_eq_breakdown.mpr ⟨hlength, behind, hheaders⟩,
      fun hlength => ⟨fun m hbreaks => ?_, Protocol.Frame.read_short hheaders hlength⟩⟩
    obtain ⟨hgreat, behind', hheaders'⟩ := Protocol.Frame.read_eq_breakdown.mp hbreaks
    cases hheaders.symm.trans hheaders'
    exact absurd hgreat (Nat.not_le.mpr hlength)
  · obtain ⟨st', hst', hwork⟩ := h.work_le hst
    simp only [Protocol.Frame.readAll_eq_breakdown]
    refine ⟨st', hst', ?_, ?_, fun hfinished => ?_, h.detach_of_aborted hst hreading hst',
      fun hbroken => ⟨h.overflows hst hreading hst' hbroken, fun t hclose => ?_⟩,
      fun n hoverflows t hclose => ?_⟩
    · have hfirst : st.work = 2 * st.octets.length + 5 := by rw [Stream.work, hreading]
      rw [Stream.sent, List.length_append]
      omega
    · cases hdone : st'.stage.isDone with
      | true => exact .inl rfl
      | false => exact .inr (Step.exists_reader hst' hdone)
    · exact h.close_of_hasClosed hst hreading hst' (by rw [hfinished]; rfl)
    · have hclosed := h.hasClosed_of_close hst' hclose
      rw [hbroken] at hclosed
      cases hclosed
    · obtain ⟨t', reason, hleave⟩ := h.leave_of_close hst hreading hclose
      obtain ⟨cause, rfl⟩ := h.leave_of_overflows hst hleave hoverflows
      exact ⟨t', cause, hleave⟩

/-- A server sends a header with the first length that no memory holds. -/
theorem Run.reaches_close_vast :
    Frame.read true vast = .breakdown Frame.maxLength ∧
    ∃ t s', Run (listening []) [.arrive 0 vast, .reader 0 t .breakDown] s' ∧
      s'.stageOf 0 = .broken ∧ ∃ n, (Frame.readAll vast).2 = .breakdown n := by
  have hvast : Frame.readHeaders true none vast = .length (some Frame.maxLength) [] :=
    Protocol.Frame.readHeaders_encode true (by decide) []
  have hstream : (listening []).streams[0]? = some .fresh := rfl
  obtain ⟨s', hrun, -, hbroken⟩ := Run.breaksDown hstream
  obtain ⟨hheaders, st', hst', -, -, -, -, hbreaks, -⟩ := Run.reaches_close hstream rfl hrun
  obtain ⟨hoverflows, -⟩ := hbreaks (by rwa [stageOf_eq hst'] at hbroken)
  exact ⟨(hheaders true vast _ [] hvast).1 (Nat.le_refl _), _, s', hrun, hbroken, hoverflows⟩

end AnalyzerClient.Traffic
