import AnalyzerClient.Proofs.Client.Coherence
import AnalyzerClient.Proofs.Client.Departure
import AnalyzerClient.Proofs.Client.Introduction

/-!
# The life of a server

A start succeeds if and only if its server responded to the introduction with a result of the right
kind, was notified of this, and was not counted as failed before the start came to its mark
(`Span.tellStarted_iff`). `Run.lifecycle` says what the state of the client is and what the client
tells, from the beginning of a start to the end of the next stop.
-/

namespace AnalyzerClient.Traffic

open AnalyzerClient.Protocol (Frame.encode Frame.read)

variable {config : Server.Config} {s₀ s : Traffic} {actions earlier before after : List Action}

/-! ## Starts that succeed -/

/-- The server of a start responded to its introduction with a result of the right kind, was
notified of this, and was not counted as failed before the start came to its mark. -/
def Accepted (s₀ : Traffic) (actions : List Action) : Prop :=
  ∃ before after, actions = before ++ .owner .acknowledge :: after ∧ Welcomed s₀ before ∧
    ∀ before after, actions = before ++ .owner .mark :: after →
      ∀ t, .reader s₀.next t .fail ∉ before

theorem Undisturbed.blamed_iff {server : Nat} (h : Undisturbed server actions) :
    blamed actions = true ↔ ∃ t, .reader server t .fail ∈ actions := by
  rw [← Bool.not_eq_false, blamed_eq_false_iff]
  push Not
  exact ⟨fun ⟨i, t, hmem⟩ => ⟨t, h i t _ hmem (.inl rfl) ▸ hmem⟩, fun ⟨t, ht⟩ => ⟨server, t, ht⟩⟩

namespace Span

/-- A start that has ended succeeded if and only if its server was accepted. -/
theorem tellStarted_iff (h : Run (.initial config) earlier s₀) (hspan : Span .start s₀ actions s)
    (hquiet : Undisturbed s₀.next actions) (hidle : s.owner = .idle) :
    .owner .tellStarted ∈ actions ↔ Accepted s₀ actions := by
  have hprogress := hspan.progress
  constructor
  · -- what came before the mark of the start: its notification, and before this the response
    intro htold
    have hmarked := hprogress.marked_of_told htold
    obtain ⟨before, after, rfl, -⟩ := id hmarked
    obtain ⟨s₁, hbefore, howner⟩ := hspan.acknowledged_of_mark
    obtain ⟨front, back, rfl⟩ :=
      List.append_of_mem ((Span.introduction h hbefore).acknowledged howner)
    obtain ⟨s₂, s₃, hfront, hstep, -⟩ := hbefore.split_at
    refine ⟨front, back ++ .owner .mark :: after, List.append_assoc .., ?_, ?_⟩
    · cases hstep with
      | owner hstep =>
        cases hstep with
        | acknowledge hwhere => exact (Span.introduction h hfront).welcomed (.inl hwhere)
    · intro before' after' he t hmem
      rw [he] at hspan hmarked hquiet
      have hfree := hspan.unblamed_of_marked hmarked
      rw [hquiet.left.blamed_iff.mpr ⟨t, hmem⟩] at hfree
      cases hfree
  · rintro ⟨front, back, he, -, hfree⟩
    have hmem : .owner .acknowledge ∈ actions := he ▸ List.mem_append_right _ List.mem_cons_self
    rcases (Span.introduction h hspan).marks hmem with howner | hmark
    · rw [hidle] at howner; cases howner
    · obtain ⟨before, after, rfl⟩ := List.append_of_mem hmark
      have hunblamed : blamed before = false := Bool.eq_false_iff.mpr fun hblamed => by
        obtain ⟨t, ht⟩ := hquiet.left.blamed_iff.mp hblamed
        exact hfree before after rfl t ht
      rcases (hprogress.of_marked ⟨before, after, rfl, hunblamed⟩).1 with howner | ⟨-, htold⟩
      · rw [hidle] at howner; cases howner
      · exact htold

theorem outcome (hspan : Span .start s₀ actions s) (hidle : s.owner = .idle) :
    (.owner .tellStarted ∈ actions → tellings actions .started = 1 ∧
      ∃ before after s₁, actions = before ++ .owner .mark :: after ∧
        Span .start s₀ (before ++ [.owner .mark]) s₁ ∧ s₁.client.state = .running) ∧
    (.owner .tellStarted ∉ actions → .owner .abandon ∉ actions →
      tellings actions .started = 0 ∧ s.client.state = .failed) := by
  have hprogress := hspan.progress
  constructor
  · intro htold
    constructor
    · have hpos := tellings_started_pos.mpr htold
      cases hprogress with
      | started _ _ hone => exact hone
      | starting _ _ hnone | marked _ _ hnone | failed _ _ hnone | givenUp _ _ _ hnone => omega
    · obtain ⟨before, after, rfl, hfree⟩ := hprogress.marked_of_told htold
      obtain ⟨s₁, s₂, hbefore, hstep, -⟩ := hspan.split_at
      have hmark := hbefore.concat hstep rfl
      refine ⟨before, after, s₂, rfl, hmark, ?_⟩
      rw [(hmark.progress.of_marked ⟨before, [], rfl, hfree⟩).2, blamed_concat, hfree]
      rfl
  · intro htold hkept
    cases hprogress with
    | failed _ hc hnone => exact ⟨hnone, hc⟩
    | givenUp _ hgave => exact absurd hgave hkept
    | starting hwhere | marked hwhere => rw [hidle] at hwhere; cases hwhere
    | started _ _ hone => exact absurd (tellings_started_pos.mp (by omega)) htold

theorem reader_ends (h : Run (.initial config) earlier s₀) (hspan : Span .start s₀ actions s)
    (hquiet : Undisturbed s₀.next actions) :
    tellings actions .crashed = (s.stageOf s₀.next).crashes ∧
    ((s.stageOf s₀.next).hasFailed = true → s.client.state = .failed) ∧
    (s.stageOf s₀.next = .broken → .owner .tellStarted ∈ actions → s.client.state = .running) := by
  have H := Span.newcomer h hspan
  have hprogress := hspan.progress
  refine ⟨H.crashes_eq hquiet, ?_, ?_⟩
  · intro hfailed
    exact hprogress.state_of_blamed ((H.blamed_eq hquiet).trans hfailed)
  · intro hbroken htold
    rw [(hprogress.of_marked (hprogress.marked_of_told htold)).2, H.blamed_eq hquiet, hbroken]
    rfl

end Span

/-- A header that announces more octets than any memory holds. -/
def vast : List UInt8 :=
  Text.Utf8.encode (Protocol.Frame.lengthLine Protocol.Frame.maxLength) ++
    (Text.Utf8.encode "\r\n" ++ [])

/-- A reader that waits for its server breaks down at such a header. -/
theorem Run.breaksDown {i : Nat} (hst : s.streams[i]? = some .fresh) :
    ∃ s', Run s [.arrive i vast, .reader i (s.client.tableOf i) .breakDown] s' ∧
      s'.owner = s.owner ∧ s'.stageOf i = .broken := by
  have hlt := (List.getElem?_eq_some_iff.mp hst).1
  have hvast : Frame.read false vast = .breakdown Protocol.Frame.maxLength :=
    Protocol.Frame.read_of_maxLength_le false (Nat.le_refl _) (by decide) []
  refine ⟨_, .step (.arrive vast hst rfl) <|
    .step (.reader (List.getElem?_set_self hlt) (.breakDown rfl hvast)) <| .done _, rfl, ?_⟩
  rw [stageOf, List.getElem?_set_self (Nat.lt_of_lt_of_eq hlt List.length_set.symm)]
  rfl

/-- Behind the notification a start ends alone. -/
theorem ends_of_acknowledged (howner : s.owner = .acknowledged) :
    ∃ later s', Run s later s' ∧ s'.owner = .idle ∧ ∀ a ∈ later, ∃ action, a = .owner action := by
  by_cases hstarting : s.client.state = .starting
  · have hmark : s.client.markRunning = .ok (s.client.setState .running) := if_pos hstarting
    refine ⟨[.owner .mark, .owner .tellStarted], _, .step (.owner (.mark howner hmark)) <|
      .step (.owner (.tellStarted rfl)) <| .done _, rfl, fun a ha => ?_⟩
    simp only [List.mem_cons, List.not_mem_nil, or_false] at ha
    rcases ha with rfl | rfl <;> exact ⟨_, rfl⟩
  · have hmark : s.client.markRunning = .error .notRunning := if_neg hstarting
    exact ⟨[.owner .mark], _, .step (.owner (.markFails howner hmark)) (.done _), rfl,
      fun a ha => ⟨_, List.mem_singleton.mp ha⟩⟩

/-- The life of a server, whatever it sends and whatever happens in which order, as long as no
reader of an earlier server counts a server as failed. A start that has ended succeeded if and only
if its server was accepted, and behind the notification it ends alone. If it succeeded, the server
counted as running at its mark, and one start is told; if it failed, the server counts as failed,
and none is told. The reader of the server tells one crash when it is finished and none otherwise,
and counts the server as failed before; only if it breaks down, a server that runs still counts as
running. From the beginning of a stop to the next call no crash is told, unless a reader had found
before that nobody asked for the end of its server; and when the stop came to its end, the server
counts as stopped, this was told once, and requests are turned away. -/
theorem Run.lifecycle (h : Run (.initial config) earlier s₀) :
    (∀ during s, Span .start s₀ during s → Undisturbed s₀.next during →
      (s.owner = .idle → (.owner .tellStarted ∈ during ↔ Accepted s₀ during) ∧
        (.owner .tellStarted ∈ during →
          s.client.tidings.count .started = s₀.client.tidings.count .started + 1 ∧
          ∃ before after s₁, during = before ++ .owner .mark :: after ∧
            Span .start s₀ (before ++ [.owner .mark]) s₁ ∧ s₁.client.state = .running) ∧
        (.owner .tellStarted ∉ during → .owner .abandon ∉ during →
          s.client.tidings.count .started = s₀.client.tidings.count .started ∧
          s.client.state = .failed)) ∧
      (s.owner = .acknowledged → ∃ later s', Run s later s' ∧ s'.owner = .idle ∧
        ∀ a ∈ later, ∃ action, a = .owner action) ∧
      s.client.tidings.count .crashed =
        s₀.client.tidings.count .crashed + (s.stageOf s₀.next).crashes ∧
      ((s.stageOf s₀.next).isDone = true → s.stageOf s₀.next = .broken ∨
        (s.stageOf s₀.next = .finished ∧ s.client.state = .failed)) ∧
      (s.stageOf s₀.next = .broken → .owner .tellStarted ∈ during →
        s.client.state = .running)) ∧
    ∀ parting s, Span .stop s₀ parting s → (∀ i, (s₀.stageOf i).accuses = false) →
      s.client.tidings.count .crashed = s₀.client.tidings.count .crashed ∧
      (.owner .tellStopped ∈ parting → s.client.state = .stopped ∧
        s.client.tidings.count .stopped = s₀.client.tidings.count .stopped + 1 ∧ TurnsAway s) := by
  constructor
  · intro during s hspan hquiet
    have hcount := hspan.count_tidings
    obtain ⟨hcrashes, hfailed, hbroken⟩ := hspan.reader_ends h hquiet
    refine ⟨?_, ends_of_acknowledged, by rw [hcount, hcrashes], ?_, hbroken⟩
    · intro hidle
      refine ⟨hspan.tellStarted_iff h hquiet hidle, ?_, ?_⟩
      · intro htold
        obtain ⟨hone, hmark⟩ := (hspan.outcome hidle).1 htold
        exact ⟨by rw [hcount, hone], hmark⟩
      · intro htold hkept
        obtain ⟨hnone, hstate⟩ := (hspan.outcome hidle).2 htold hkept
        exact ⟨by rw [hcount, hnone]; rfl, hstate⟩
    · intro hdone
      have hruns := (Span.newcomer h hspan).runs
      cases hstage : s.stageOf s₀.next with
      | finished => exact .inr ⟨rfl, hfailed (by rw [hstage]; rfl)⟩
      | broken => exact .inl rfl
      | aborted => exact absurd hstage hruns
      | reading | answering | left | closed | condemned | failed =>
        rw [hstage] at hdone; cases hdone
  · intro parting s hspan hcalm
    have H := hspan.departure hcalm
    have hcount := hspan.count_tidings
    refine ⟨by rw [hcount, H.crashes]; rfl, ?_⟩
    intro htold
    obtain ⟨hidle, hstate, hnone, hone⟩ := H.parting.of_told htold
    exact ⟨hstate, by rw [hcount, hone], .of_transport_none hidle hnone⟩

/-- The reader of a server that runs breaks down at a header, and the server still counts as
running. A client that has no server stops at once. -/
theorem Run.lifecycle_breakdown :
    (∃ s, Span .start (.initial (.analyzer "wa"))
        (handshake ++ [.arrive 0 vast, .reader 0 1 .breakDown]) s ∧ s.stageOf 0 = .broken ∧
      s.client.state = .running ∧ s.client.tidings.count .started = 1 ∧
      s.client.tidings.count .crashed = 0) ∧
    ∃ s, Span .stop (.initial (.analyzer "wa"))
        [.owner .skip, .owner .detach, .owner .halt, .owner .tellStopped] s ∧
      s.client.state = .stopped ∧ s.client.tidings.count .stopped = 1 ∧ TurnsAway s := by
  obtain ⟨hstarts, hstops⟩ := Run.lifecycle (.done (.initial (.analyzer "wa")))
  constructor
  · obtain ⟨s₁, s, hbegin, hrun, hfree, -, hreaders, -, hstreams⟩ := Run.connects
    obtain ⟨s', hlast, howner, hbroken⟩ :=
      Run.breaksDown (s := s) (i := 0) (by rw [hstreams]; rfl)
    rw [show s.client.tableOf 0 = 1 by rw [Client.tableOf, hreaders]; rfl] at hlast
    have hspan : Span .start (.initial (.analyzer "wa"))
        (handshake ++ [.arrive 0 vast, .reader 0 1 .breakDown]) s' :=
      ⟨⟨s₁, hbegin, hrun.append hlast⟩, by simp [handshake, Action.isCall]⟩
    have hquiet := hspan.undisturbed (.done _) fun i hi => absurd hi (Nat.not_lt_zero i)
    obtain ⟨hended, -, hcrashes, -, hruns⟩ := hstarts _ s' hspan hquiet
    have htold : Action.owner .tellStarted ∈
        handshake ++ [.arrive 0 vast, .reader 0 1 .breakDown] := by simp [handshake]
    have hnext : (initial (.analyzer "wa")).next = 0 := rfl
    rw [hnext, hbroken] at hcrashes
    exact ⟨s', hspan, hbroken, hruns hbroken htold,
      ((hended (howner.trans hfree.1)).2.1 htold).1, hcrashes⟩
  · obtain ⟨s, hspan⟩ : ∃ s, Span .stop (.initial (.analyzer "wa"))
        [.owner .skip, .owner .detach, .owner .halt, .owner .tellStopped] s :=
      ⟨_, ⟨_, .owner (.beginStop ⟨rfl, fun _ h => absurd h List.not_mem_nil⟩),
        .step (.owner (.skip rfl rfl)) <| .step (.owner (.detach rfl)) <|
        .step (.owner (.halt rfl)) <| .step (.owner (.tellStopped rfl)) <| .done _⟩,
        by simp [Action.isCall]⟩
    obtain ⟨-, hstopped⟩ := hstops _ s hspan fun i => rfl
    exact ⟨s, hspan, hstopped (by simp)⟩

end AnalyzerClient.Traffic
