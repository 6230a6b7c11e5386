import AnalyzerClient.Proofs.Client.Span
import AnalyzerClient.Proofs.Client.Wiring

/-!
# The server of a start

A start brings one server, the one behind all that were started before. Its reader is the only one
that resolves the table of the start (`Newcomer.eq_next`). Nobody asks this reader to stop, and it
counts its server as failed only when it left its loop, at a stream that ended or could not be read
(`Newcomer.ended`). As long as no other reader counts a server as failed (`Undisturbed`), what it
does decides what the client tells of crashes, and whether a server counts as failed
(`Newcomer.blamed_eq`, `Newcomer.crashes_eq`).
-/

namespace AnalyzerClient.Traffic

variable {config : Server.Config} {s₀ s s' : Traffic} {a : Action} {actions earlier : List Action}
  {i t : Nat}

/-! ## Stages -/

/-- Whether a reader left its loop. -/
def ReaderStage.hasLeft : ReaderStage → Bool
  | .left _ | .closed _ | .condemned _ | .failed _ | .finished => true
  | _ => false

/-- Whether a reader counted its server as failed, if nobody asked for the end of the server. -/
def ReaderStage.hasFailed : ReaderStage → Bool
  | .failed _ | .finished => true
  | _ => false

/-- How many crashes a reader told, if nobody asked for the end of its server. -/
def ReaderStage.crashes : ReaderStage → Nat
  | .finished => 1
  | _ => 0

/-- How far the reader of a server is. The reader of a server that is yet to be started has its
stream still to read. -/
def stageOf (s : Traffic) (server : Nat) : ReaderStage :=
  (s.streams[server]?).elim .reading (·.stage)

theorem stageOf_eq {st : Stream} (h : s.streams[i]? = some st) : s.stageOf i = st.stage := by
  rw [stageOf, h]; rfl

/-- The server that the next start brings. -/
def next (s : Traffic) : Nat := s.streams.length

theorem stageOf_next (s : Traffic) : s.stageOf s.next = .reading := by
  rw [stageOf, next, List.getElem?_eq_none (Nat.le_refl _)]; rfl

theorem Step.stageOf_of_other (h : Step s a s') (ha : ∀ t action, a ≠ .reader i t action) :
    s'.stageOf i = s.stageOf i := by
  cases hst' : s'.streams[i]? with
  | none =>
    cases hst : s.streams[i]? with
    | none => rw [stageOf, stageOf, hst', hst]
    | some st =>
      obtain ⟨_, hstays, -⟩ := h.stream_cases hst
      rw [hst'] at hstays; cases hstays
  | some st' =>
    rw [stageOf_eq hst']
    obtain ⟨st, hst, hevolves⟩ | ⟨-, rfl, rfl⟩ := h.stream_back hst'
    · rw [stageOf_eq hst]
      cases hevolves with
      | rests _ hstage | dooms _ hstage => exact hstage
      | reads hown => exact absurd hown (ha _ _)
    · exact s.stageOf_next.symm

/-- The action of a reader brings it further, and says whether it counts its server as failed and
whether it tells so. -/
theorem ReaderStep.hasFailed_eq {c c' : Client} {st st' : Stream} {action : ReaderAction}
    {parcels : List Parcel} (h : ReaderStep i c st action c' st' parcels)
    (hexpects : c.expectsEnd = false) (t : Nat) :
    st'.stage.hasFailed = (st.stage.hasFailed || (Action.reader i t action).isFailure) ∧
      st'.stage.crashes =
        st.stage.crashes + (Action.reader i t action).tidings?.toList.count .crashed := by
  cases h with
  | expect _ hexpected => rw [hexpects] at hexpected; cases hexpected
  | @read _ _ _ answer hstage => rw [hstage]; cases answer <;> exact ⟨rfl, rfl⟩
  | vanish _ hstage =>
    rcases hstage with hstage | ⟨answer, hstage⟩ <;> rw [hstage] <;> exact ⟨rfl, rfl⟩
  | answer hstage | answerFails _ hstage | leave hstage | breakDown hstage | close hstage
  | condemn hstage | fail hstage | tell hstage => rw [hstage]; exact ⟨rfl, rfl⟩

theorem ReaderStep.hasLeft_cases {c c' : Client} {st st' : Stream} {action : ReaderAction}
    {parcels : List Parcel} (h : ReaderStep i c st action c' st' parcels)
    (hleft : st'.stage.hasLeft = true) :
    st.stage.hasLeft = true ∨ ∃ reason, action = .leave reason ∧ st.Ends reason := by
  cases h with
  | leave hstage hends => exact .inr ⟨_, rfl, hends⟩
  | @read _ _ _ answer => cases answer <;> cases hleft
  | close hstage | expect hstage | condemn hstage | fail hstage | tell hstage =>
    rw [hstage]; exact .inl rfl
  | answer | answerFails | breakDown | vanish => cases hleft

/-! ## Who counts servers as failed -/

/-- No reader but that of one server counts a server as failed, or tells so. -/
def Undisturbed (server : Nat) (actions : List Action) : Prop :=
  ∀ i t action, .reader i t action ∈ actions → action = .fail ∨ action = .tell → i = server

theorem Undisturbed.left {before after : List Action} (h : Undisturbed i (before ++ after)) :
    Undisturbed i before := fun j t action hmem => h j t action (List.mem_append_left _ hmem)

theorem Undisturbed.quiet (h : Undisturbed i (actions ++ [a]))
    (ha : ∀ t action, a ≠ .reader i t action) :
    a.isFailure = false ∧ a.tidings?.toList.count .crashed = 0 := by
  cases a with
  | reader j t action =>
    have hmem : Action.reader j t action ∈ actions ++ [.reader j t action] :=
      List.mem_append_right _ (List.mem_singleton_self _)
    cases action with
    | fail => exact absurd rfl (h j t _ hmem (.inl rfl) ▸ ha t .fail)
    | tell => exact absurd rfl (h j t _ hmem (.inr rfl) ▸ ha t .tell)
    | _ => exact ⟨rfl, rfl⟩
  | owner action => cases action <;> exact ⟨rfl, rfl⟩
  | _ => exact ⟨rfl, rfl⟩

/-! ## The new server -/

/-- The reader of a server left its loop after a start, where its stream ended or could not be
read. -/
def OutputEnds (s₀ : Traffic) (actions : List Action) (server : Nat) : Prop :=
  ∃ before after s st reason t, actions = before ++ .reader server t (.leave reason) :: after ∧
    Span .start s₀ before s ∧ s.streams[server]? = some st ∧ st.Ends reason

theorem OutputEnds.concat (h : OutputEnds s₀ actions i) (a : Action) :
    OutputEnds s₀ (actions ++ [a]) i := by
  obtain ⟨before, after, s, st, reason, t, rfl, hrest⟩ := h
  exact ⟨before, after ++ [a], s, st, reason, t, by rw [List.append_assoc, List.cons_append], hrest⟩

/-- What is known of the server of a start. -/
structure Newcomer (s₀ : Traffic) (actions : List Action) (s : Traffic) : Prop where
  least : s₀.next ≤ s.streams.length
  most : s.streams.length ≤ s₀.next + 1
  tabled : s.owner = .tabled → s.streams.length = s₀.next
  table : s.client.table = s₀.client.tables.length
  /-- The tables of the servers before it are older than the start. -/
  older : ∀ i < s₀.next, s.client.tableOf i < s₀.client.tables.length
  alive : ∀ {st : Stream}, s.streams[s₀.next]? = some st → st.doomed = false
  runs : s.stageOf s₀.next ≠ .aborted
  ended : (s.stageOf s₀.next).hasLeft = true → OutputEnds s₀ actions s₀.next
  blamed_eq : Undisturbed s₀.next actions → blamed actions = (s.stageOf s₀.next).hasFailed
  crashes_eq : Undisturbed s₀.next actions →
    tellings actions .crashed = (s.stageOf s₀.next).crashes

namespace Newcomer

/-- The reader that resolves the table of a start is that of its server. -/
theorem eq_next (H : Newcomer s₀ actions s) (hi : i < s.streams.length)
    (ht : s.client.tableOf i = s₀.client.tables.length) : i = s₀.next := by
  refine Nat.le_antisymm (Nat.le_of_lt_succ (Nat.lt_of_lt_of_le hi H.most)) (Nat.le_of_not_lt ?_)
  exact fun hlt => Nat.ne_of_lt (H.older i hlt) ht

theorem begin {n : Nat} (hs : Started s₀ n) (h : Step s₀ (.owner .beginStart) s) :
    Newcomer s₀ [] s := by
  have hlast : s₀.streams[s₀.next]? = none := List.getElem?_eq_none (Nat.le_refl _)
  cases h with
  | owner hstep =>
    cases hstep
    have hstage : stageOf { s₀ with client := s₀.client.beginStart, owner := .tabled } s₀.next =
        .reading := by
      rw [stageOf, hlast]; rfl
    refine ⟨Nat.le_refl _, Nat.le_succ _, fun _ => rfl, rfl, fun i hi => ?_, fun hst => ?_, ?_, ?_,
      fun _ => by rw [hstage]; rfl, fun _ => by rw [hstage]; rfl⟩
    · have hi' : i < s₀.client.readers.length := hs.streams ▸ hi
      rw [hs.tables]
      exact Nat.lt_succ_of_le (hs.readers _ (Client.tableOf_mem hi')).2
    · rw [hlast] at hst; cases hst
    · rw [hstage]
      intro haborted
      cases haborted
    · rw [hstage]
      intro hleft
      cases hleft

/-- The server of a start is taken over once. -/
theorem length_step (H : Newcomer s₀ actions s) (h : Step s a s') (hcall : a.isCall = false) :
    s₀.next ≤ s'.streams.length ∧ s'.streams.length ≤ s₀.next + 1 ∧
      (s'.owner = .tabled → s'.streams.length = s₀.next) := by
  by_cases hattach : a = .owner .attach
  · subst hattach
    obtain ⟨howner, -, hstreams, howner'⟩ := attach_step h
    rw [hstreams, List.length_append, H.tabled howner, howner']
    exact ⟨Nat.le_succ _, Nat.le_refl _, nofun⟩
  · have hbegins : a ≠ .owner .beginStart := by rintro rfl; cases hcall
    rw [streams_step h hattach]
    exact ⟨H.least, H.most, fun howner => H.tabled (owner_step h hbegins howner)⟩

theorem older_step {n : Nat} (H : Newcomer s₀ actions s) (hs : Started s n) (h : Step s a s')
    (hi : i < s₀.next) : s'.client.tableOf i < s₀.client.tables.length := by
  rw [tableOf_step h (hs.streams ▸ Nat.lt_of_lt_of_le hi H.least)]
  exact H.older i hi

theorem alive_step (H : Newcomer s₀ actions s) (hprogress : Progress actions s) (h : Step s a s')
    {st' : Stream} (hst' : s'.streams[s₀.next]? = some st') : st'.doomed = false := by
  obtain ⟨st, hst, hevolves⟩ | ⟨-, -, rfl⟩ := h.stream_back hst'
  case inr => rfl
  cases hevolves with
  | rests _ _ hdoomed => rw [hdoomed, H.alive hst]
  | dooms hdetach =>
    -- only a stop lets go of a server, and none has begun
    subst hdetach
    cases h with
    | owner hstep => cases hstep with | detach howner => exact absurd howner hprogress.ne_leaving
  | reads _ hstep => rw [hstep.doomed_eq, H.alive hst]

theorem step {n : Nat} (H : Newcomer s₀ actions s) (hspan : Span .start s₀ actions s)
    (hs : Started s n) (h : Step s a s') (hcall : a.isCall = false) :
    Newcomer s₀ (actions ++ [a]) s' := by
  have hprogress := hspan.progress
  have hbegins : a ≠ .owner .beginStart := by rintro rfl; cases hcall
  obtain ⟨hleast, hmost, htabled⟩ := H.length_step h hcall
  have htable := (tables_step h hbegins).1.trans H.table
  have halive {st' : Stream} (hst' : s'.streams[s₀.next]? = some st') : st'.doomed = false :=
    H.alive_step hprogress h hst'
  by_cases hown : ∃ t action, a = .reader s₀.next t action
  · -- the reader of the new server comes further
    obtain ⟨t, action, rfl⟩ := hown
    obtain ⟨-, st, st', c, parcels, hst, hst', hstep⟩ := h.reader_step
    have hmarks := hstep.hasFailed_eq hprogress.expectsEnd_eq t
    refine ⟨hleast, hmost, htabled, htable, fun i => H.older_step hs h, halive, ?_, ?_,
      fun hquiet => ?_, fun hquiet => ?_⟩ <;> rw [stageOf_eq hst']
    · intro haborted
      have hdoomed := hstep.doomed_of_aborted haborted
      rw [halive hst'] at hdoomed
      cases hdoomed
    · intro hleft
      rcases hstep.hasLeft_cases hleft with hleft | ⟨reason, rfl, hends⟩
      · exact (H.ended (by rw [stageOf_eq hst, hleft])).concat _
      · exact ⟨actions, [], s, st, reason, t, rfl, hspan, hst, hends⟩
    · rw [blamed_concat, H.blamed_eq hquiet.left, stageOf_eq hst, hmarks.1]
    · rw [tellings_concat, H.crashes_eq hquiet.left, stageOf_eq hst, hmarks.2]
  · -- everything else leaves it where it is
    have hother (t : Nat) (action : ReaderAction) : a ≠ .reader s₀.next t action :=
      fun he => hown ⟨t, action, he⟩
    refine ⟨hleast, hmost, htabled, htable, fun i => H.older_step hs h, halive, ?_, ?_,
      fun hquiet => ?_, fun hquiet => ?_⟩ <;> rw [h.stageOf_of_other hother]
    · exact H.runs
    · exact fun hleft => (H.ended hleft).concat _
    · rw [blamed_concat, H.blamed_eq hquiet.left, (hquiet.quiet hother).1, Bool.or_false]
    · rw [tellings_concat, H.crashes_eq hquiet.left, (hquiet.quiet hother).2, Nat.add_zero]

end Newcomer

theorem Span.newcomer (h : Run (.initial config) earlier s₀) (hspan : Span .start s₀ actions s) :
    Newcomer s₀ actions s := by
  refine hspan.induct (fun hbegin => ?_) fun {before s₁ a s₂} hbefore H hcall hstep => ?_
  · obtain ⟨-, n, hs⟩ := h.wired
    exact .begin hs hbegin
  · obtain ⟨-, n, hs⟩ := (h.append hbefore.whole).wired
    exact H.step hbefore hs hstep hcall

/-- A reader that does something after a start is that of the server of the start, or that of an
earlier server that was not done. -/
theorem Span.reader_cases (h : Run (.initial config) earlier s₀) (hspan : Span .start s₀ actions s)
    {action : ReaderAction} (hmem : .reader i t action ∈ actions) :
    i = s₀.next ∨ (i < s₀.next ∧ (s₀.stageOf i).isDone = false) := by
  obtain ⟨before, after, rfl⟩ := List.append_of_mem hmem
  obtain ⟨s₁, s₂, hbefore, hstep, -⟩ := hspan.split_at
  obtain ⟨-, st, -, -, -, hst, -⟩ := hstep.reader_step
  have hmost := (Span.newcomer h hbefore).most
  rcases Nat.lt_or_ge i s₀.next with hlt | hge
  case inr => exact .inl (by have := (List.getElem?_eq_some_iff.mp hst).1; omega)
  refine .inr ⟨hlt, Bool.eq_false_iff.mpr fun hdone => ?_⟩
  have hst₀ := List.getElem?_eq_getElem (l := s₀.streams) hlt
  rw [stageOf_eq hst₀] at hdone
  exact hspan.whole.not_reader_of_done hst₀ hdone action (List.mem_cons_of_mem _ hmem)

/-- Readers that are done count no server as failed. -/
theorem Span.undisturbed (h : Run (.initial config) earlier s₀) (hspan : Span .start s₀ actions s)
    (hdone : ∀ i < s₀.next, (s₀.stageOf i).isDone = true) : Undisturbed s₀.next actions := by
  intro i t action hmem _
  refine (hspan.reader_cases h hmem).resolve_right fun ⟨hlt, hbusy⟩ => ?_
  rw [hdone i hlt] at hbusy
  cases hbusy

end AnalyzerClient.Traffic
