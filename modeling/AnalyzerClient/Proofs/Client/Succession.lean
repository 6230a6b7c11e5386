import AnalyzerClient.Proofs.Client.Introduction

/-!
# Servers that follow each other

A client that starts another server keeps the readers of the earlier ones. Those that are done do
nothing any more. Another one that finds the end of the output of its server fails the start, or the
server that it brought; but for this, a start and what follows it are as if its server was the only
one (`Run.succession`).
-/

namespace AnalyzerClient.Traffic

variable {config : Server.Config} {s₀ s : Traffic} {later earlier : List Action} {i t : Nat}

/-! ## Servers that go away -/

/-- The output of a server ends, and its reader counts the server as failed. -/
def downfall (server t : Nat) : List Action :=
  .hangUp server :: [.leave Exchange.endOfStream, .close, .condemn, .fail, .tell].map
    (.reader server t)

/-- When the output of a server ends, the reader that waits for it finds that nobody asked for this,
unless somebody did. -/
theorem Run.condemns (hst : s.streams[i]? = some .fresh) (hexpects : s.client.expectsEnd = false) :
    ∃ s', Run s (.hangUp i :: [.leave Exchange.endOfStream, .close, .condemn].map
        (.reader i (s.client.tableOf i))) s' ∧
      s'.client = s.client.closeTable i ∧ s'.owner = s.owner ∧ s'.calls = s.calls ∧
      s'.streams = s.streams.set i ⟨[], true, false, .condemned Exchange.endOfStream⟩ := by
  have hlt := (List.getElem?_eq_some_iff.mp hst).1
  have hset {streams : List Stream} {st' : Stream} (hlength : streams.length = s.streams.length) :
      (streams.set i st')[i]? = some st' := List.getElem?_set_self (by rw [hlength]; exact hlt)
  have hunexpected : ¬ (s.client.closeTable i).expectsEnd := by
    rw [show (s.client.closeTable i).expectsEnd = s.client.expectsEnd from rfl, hexpects]; nofun
  refine ⟨_, .step (.hangUp hst) <|
    .step (.reader (hset rfl) (.leave rfl (.finished Protocol.Sent.read_transmit_nil))) <|
    .step (.reader (hset (by simp)) (.close rfl)) <|
    .step (.reader (hset (by simp)) (.condemn rfl hunexpected)) <| .done _, rfl, rfl, rfl, ?_⟩
  simp only [List.set_set]
  rfl

/-- A reader that found that nobody asked for the end of its server says so, whatever was asked for
since. -/
theorem Run.accuses {st : Stream} {reason : String} (hst : s.streams[i]? = some st)
    (hstage : st.stage = .condemned reason) :
    ∃ s', Run s ([.fail, .tell].map (.reader i (s.client.tableOf i))) s' ∧
      s'.client.state = .failed ∧ s'.owner = s.owner ∧ s'.calls = s.calls ∧
      s'.streams = s.streams.set i { st with stage := .finished } := by
  have hlt := (List.getElem?_eq_some_iff.mp hst).1
  refine ⟨_, .step (.reader hst (.fail hstage)) <|
    .step (.reader (List.getElem?_set_self hlt) (.tell rfl)) <| .done _, rfl, rfl, rfl, ?_⟩
  rw [List.set_set]

/-- A reader that waits for its server counts the server as failed when its output ends, unless
somebody asked for this. -/
theorem Run.falls (hst : s.streams[i]? = some .fresh) (hexpects : s.client.expectsEnd = false) :
    ∃ s', Run s (downfall i (s.client.tableOf i)) s' ∧ s'.client.state = .failed ∧
      s'.owner = s.owner ∧ s'.calls = s.calls ∧
      s'.streams = s.streams.set i ⟨[], true, false, .finished⟩ := by
  have hlt := (List.getElem?_eq_some_iff.mp hst).1
  obtain ⟨s₁, hcondemns, hclient, howner, hcalls, hstreams⟩ := Run.condemns hst hexpects
  obtain ⟨s', haccuses, hstate, howner', hcalls', hstreams'⟩ :=
    Run.accuses (s := s₁) (i := i) (by rw [hstreams, List.getElem?_set_self hlt]) rfl
  rw [show s₁.client.tableOf i = s.client.tableOf i by rw [hclient]; rfl] at haccuses
  refine ⟨s', hcondemns.append haccuses, hstate, howner'.trans howner, hcalls'.trans hcalls, ?_⟩
  rw [hstreams', hstreams, List.set_set]

/-! ## What earlier servers are to a start -/

theorem OutputEnds.append (h : OutputEnds s₀ later i) (rest : List Action) :
    OutputEnds s₀ (later ++ rest) i := by
  obtain ⟨before, after, s, st, reason, t, rfl, hrest⟩ := h
  exact ⟨before, after ++ rest, s, st, reason, t, by rw [List.append_assoc, List.cons_append],
    hrest⟩

/-- A reader that counts its server as failed, or tells so, has left its loop. -/
theorem ReaderStep.hasLeft_of_accuses {c c' : Client} {st st' : Stream} {action : ReaderAction}
    {parcels : List Parcel} (h : ReaderStep i c st action c' st' parcels)
    (haction : action = .fail ∨ action = .tell) : st.stage.hasLeft = true := by
  cases h with
  | fail hstage | tell hstage => rw [hstage]; rfl
  | _ => rcases haction with haction | haction <;> cases haction

/-- The reader of the server of a start counts it as failed, or tells so, only behind the end of its
output. -/
theorem Span.ended_of_accuses (h : Run (.initial config) earlier s₀)
    (hspan : Span .start s₀ later s) {action : ReaderAction}
    (hmem : .reader s₀.next t action ∈ later) (haction : action = .fail ∨ action = .tell) :
    OutputEnds s₀ later s₀.next := by
  obtain ⟨before, after, rfl⟩ := List.append_of_mem hmem
  obtain ⟨s₁, s₂, hbefore, hstep, -⟩ := hspan.split_at
  obtain ⟨-, st, st', c, parcels, hst, -, hreads⟩ := hstep.reader_step
  refine ((Span.newcomer h hbefore).ended ?_).append _
  rw [stageOf_eq hst]
  exact hreads.hasLeft_of_accuses haction

/-- A start that cannot bring a server leaves the client without one that counts as running. -/
theorem Span.unspawned (h : Run (.initial config) earlier s₀) (hspan : Span .start s₀ later s)
    (hfails : .owner .spawnFails ∈ later) :
    s.owner = .idle ∧ s.client.state = .failed ∧ s.streams.length = s₀.next := by
  refine hspan.induct (P := fun later s => .owner .spawnFails ∈ later →
    s.owner = .idle ∧ s.client.state = .failed ∧ s.streams.length = s₀.next)
    (fun _ hfails => absurd hfails List.not_mem_nil) ?_ hfails
  intro before s₁ a s₂ hbefore ih hcall hstep hfails
  rcases List.mem_append.mp hfails with hfails | hfails
  · obtain ⟨howner, hstate, hlength⟩ := ih hfails
    have hother (action : OwnerAction) : a ≠ .owner action := by
      rintro rfl
      cases hstep with
      | owner hstep =>
        rw [hstep.isCall_of_idle howner] at hcall
        cases hcall
    obtain ⟨howner', hstate'⟩ := hstep.of_other hother
    refine ⟨howner'.trans howner, ?_, (streams_step hstep (hother _)).trans hlength⟩
    rw [hstate', hstate, ite_self]
  · cases List.mem_singleton.mp hfails
    cases hstep with
    | owner hstep =>
      cases hstep with
      | spawnFails howner => exact ⟨rfl, rfl, (Span.newcomer h hbefore).tabled howner⟩

/-- What readers are to a start and to what follows it, until the next start or stop. -/
structure Succession (s₀ : Traffic) (later : List Action) (s : Traffic) : Prop where
  /-- Earlier servers whose readers were done are nothing to the start any more. -/
  readers : ∀ {i t : Nat} {action : ReaderAction}, .reader i t action ∈ later →
    i = s₀.next ∨ (i < s₀.next ∧ (s₀.stageOf i).isDone = false)
  /-- The reader of the new server counts it as failed, or tells so, only behind the end of its
  output. -/
  own : ∀ {t : Nat} {action : ReaderAction}, .reader s₀.next t action ∈ later →
    action = .fail ∨ action = .tell → OutputEnds s₀ later s₀.next
  /-- A start under way is still starting unless a reader counted its server as failed. -/
  starting : s.owner.isStarting = true →
    (s.client.state = .starting ↔ ∀ i t, .reader i t .fail ∉ later)
  /-- A start that comes to its mark succeeds unless a reader counted its server as failed before.
  -/
  marks : ∀ {before after : List Action}, later = before ++ .owner .mark :: after →
    s.owner = .idle → (.owner .tellStarted ∈ later ↔ ∀ i t, .reader i t .fail ∉ before)
  /-- Behind a start that succeeded the server runs unless a reader counted its server as failed. -/
  running : .owner .tellStarted ∈ later →
    (s.client.state = .running ↔ ∀ i t, .reader i t .fail ∉ later)
  /-- A crash is told when a reader tells it. -/
  crashes : s.client.tidings.count .crashed = s₀.client.tidings.count .crashed ↔
    ∀ i t, .reader i t .tell ∉ later
  /-- A start whose server cannot be started takes the earlier one for failed. -/
  unspawned : .owner .spawnFails ∈ later →
    s.owner = .idle ∧ s.client.state = .failed ∧ s.streams.length = s₀.next

/-- Whatever was started and stopped before, and whatever happens in which order: a start and what
follows it are as if its server was the only one, except exactly that readers of earlier servers
that were not done when it began, and find that nobody asked for the end of their servers, count the
new one as failed and tell a crash, and that a start whose server cannot be started takes the
earlier server for failed. -/
theorem Run.succession (h : Run (.initial config) earlier s₀) (hspan : Span .start s₀ later s) :
    Succession s₀ later s := by
  have hprogress := hspan.progress
  refine ⟨hspan.reader_cases h, hspan.ended_of_accuses h, ?_, ?_, ?_, ?_, hspan.unspawned h⟩
  · intro hstarting
    cases hprogress with
    | starting _ hc => rw [hc, ← blamed_eq_false_iff]; cases blamed later <;> simp
    | marked howner | started howner | failed howner | givenUp howner =>
      rw [howner] at hstarting; cases hstarting
  · rintro before after rfl hidle
    rw [← blamed_eq_false_iff]
    constructor
    · exact fun htold => hspan.unblamed_of_marked (hprogress.marked_of_told htold)
    · intro hblamed
      rcases (hprogress.of_marked ⟨before, after, rfl, hblamed⟩).1 with howner | ⟨-, htold⟩
      · rw [hidle] at howner; cases howner
      · exact htold
  · intro htold
    rw [(hprogress.of_marked (hprogress.marked_of_told htold)).2, ← blamed_eq_false_iff]
    cases blamed later <;> simp
  · rw [hspan.count_tidings, ← tellings_crashed_eq_zero_iff]
    omega

/-! ## A second server -/

/-- A second server is started when the output of the first one has ended. -/
theorem Run.restarts_after_downfall :
    ∃ s₀ s, Run (.initial (.analyzer "wa")) (.owner .beginStart :: handshake ++ downfall 0 1) s₀ ∧
      Span .start s₀ [.owner .attach, .hangUp 0] s ∧ s.owner = .attached := by
  obtain ⟨s₁, s, hbegin, hrun, hfree, hstate, hreaders, -, hstreams⟩ := Run.connects
  have ht : s.client.tableOf 0 = 1 := by rw [Client.tableOf, hreaders]; rfl
  obtain ⟨s₀, hfalls, -, howner, hcalls, hstreams₀⟩ := Run.falls (s := s) (i := 0)
    (by rw [hstreams]; rfl) (by rw [Client.expectsEnd, hstate]; rfl)
  rw [ht] at hfalls
  rw [hstreams] at hstreams₀
  have hfree₀ : s₀.Free := ⟨howner.trans hfree.1, hcalls ▸ hfree.2⟩
  exact ⟨s₀, _, (Run.step hbegin hrun).append hfalls, ⟨⟨_, .owner (.beginStart hfree₀),
    .step (.owner (.attach rfl)) <| .step (.hangUp (by rw [hstreams₀]; rfl)) <| .done _⟩,
    by simp [Action.isCall]⟩, rfl⟩

/-- The output of the first server ends while a second one is started. -/
theorem Run.falls_behind_attach :
    ∃ s₀ s, Run (.initial (.analyzer "wa")) (.owner .beginStart :: handshake) s₀ ∧
      Span .start s₀ (.owner .attach :: downfall 0 1) s ∧ s.owner = .attached ∧
      s.streams[1]? = some .fresh := by
  obtain ⟨s₁, s₀, hbegin, hrun, hfree, -, hreaders, -, hstreams⟩ := Run.connects
  obtain ⟨s, hspan, hstarting, howner, ht, hstreams'⟩ : ∃ s, Span .start s₀ [.owner .attach] s ∧
      s.client.state = .starting ∧ s.owner = .attached ∧ s.client.tableOf 0 = 1 ∧
      s.streams = [.fresh, .fresh] := by
    refine ⟨_, ⟨⟨_, .owner (.beginStart hfree), .step (.owner (.attach rfl)) <| .done _⟩,
      by simp [Action.isCall]⟩, rfl, rfl, ?_, congrArg (· ++ [.fresh]) hstreams⟩
    rw [Client.tableOf, Client.attach, Client.beginStart, hreaders]
    rfl
  obtain ⟨s', hfalls, -, howner', -, hstreams''⟩ := Run.falls (s := s) (i := 0)
    (by rw [hstreams']; rfl) (by rw [Client.expectsEnd, hstarting]; rfl)
  rw [ht] at hfalls
  refine ⟨s₀, s', .step hbegin hrun, hspan.append hfalls (by simp [Action.isCall]),
    howner'.trans howner, ?_⟩
  rw [hstreams'', hstreams']
  rfl

/-- A second server cannot be started while the first one runs. -/
theorem Run.restarts_without_server :
    ∃ s₀ s, Run (.initial (.analyzer "wa")) (.owner .beginStart :: handshake) s₀ ∧
      s₀.client.state = .running ∧ Span .start s₀ [.owner .spawnFails] s ∧
      s.streams = [.fresh] := by
  obtain ⟨s₁, s₀, hbegin, hrun, hfree, hstate, -, -, hstreams⟩ := Run.connects
  exact ⟨s₀, _, .step hbegin hrun, hstate, ⟨⟨_, .owner (.beginStart hfree),
    .step (.owner (.spawnFails rfl)) <| .done _⟩, by simp [Action.isCall]⟩, hstreams⟩

/-- A client starts a second server. If the reader of the first one is done, what happens to that
server is nothing to the start; if the first server goes away meanwhile, its reader fails the start
and tells a crash, while the output of the second one is open; and if the second server cannot be
started, the first one does not count as running any more, while its output is open. -/
theorem Run.succession_second :
    (∃ s₀ s, Run (.initial (.analyzer "wa")) (.owner .beginStart :: handshake ++ downfall 0 1) s₀ ∧
      Span .start s₀ [.owner .attach, .hangUp 0] s ∧ s.client.state = .starting ∧
      s.client.tidings.count .crashed = s₀.client.tidings.count .crashed) ∧
    (∃ s₀ s, Run (.initial (.analyzer "wa")) (.owner .beginStart :: handshake) s₀ ∧
      Span .start s₀ (.owner .attach :: downfall 0 1) s ∧ s.owner = .attached ∧
      s.client.state ≠ .starting ∧
      s.client.tidings.count .crashed ≠ s₀.client.tidings.count .crashed ∧
      s.streams[1]? = some .fresh) ∧
    ∃ s₀ s, Run (.initial (.analyzer "wa")) (.owner .beginStart :: handshake) s₀ ∧
      s₀.client.state = .running ∧ Span .start s₀ [.owner .spawnFails] s ∧
      s.client.state = .failed ∧ s.streams = [.fresh] := by
  refine ⟨?_, ?_, ?_⟩
  · obtain ⟨s₀, s, h, hspan, howner⟩ := Run.restarts_after_downfall
    have hsuccession := Run.succession h hspan
    exact ⟨s₀, s, h, hspan, (hsuccession.starting (by rw [howner]; rfl)).mpr (by simp),
      hsuccession.crashes.mpr (by simp)⟩
  · obtain ⟨s₀, s, h, hspan, howner, hopen⟩ := Run.falls_behind_attach
    have hsuccession := Run.succession h hspan
    refine ⟨s₀, s, h, hspan, howner, fun hstays => ?_, fun hstays => ?_, hopen⟩
    · have hnone := (hsuccession.starting (by rw [howner]; rfl)).mp hstays
      exact hnone 0 1 (by simp [downfall])
    · exact hsuccession.crashes.mp hstays 0 1 (by simp [downfall])
  · obtain ⟨s₀, s, h, hstate, hspan, hopen⟩ := Run.restarts_without_server
    have hsuccession := Run.succession h hspan
    obtain ⟨-, hfailed, -⟩ := hsuccession.unspawned (List.mem_singleton_self _)
    exact ⟨s₀, s, h, hstate, hspan, hfailed, hopen⟩

end AnalyzerClient.Traffic
