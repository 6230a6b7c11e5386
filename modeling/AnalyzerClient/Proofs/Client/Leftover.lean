import AnalyzerClient.Proofs.Client.Introduction
import AnalyzerClient.Proofs.Client.Response

/-!
# What requests leave in the tables

What one request does changes nothing about the others, and a request that returned stands in no
table any more (`TypedRun.entries`); but when a reader closes its table, the others in it are gone
as well (`Run.forsakes_others`).

The parameters of a request are a value of some type, and not every value of a type has a JSON form.
A request finds this out when it stands in its table already, and returns (`TypedStep`). Its number
stays where it is until the table is closed or a response with this number is read
(`TypedRun.waiting_iff_left`).
-/

namespace AnalyzerClient.Traffic

open AnalyzerClient.Protocol (Error)

/-! ## Parameters of any type -/

/-- What happens when requests are made with values of any type: an action, or a request finds that
its parameters have no JSON form. -/
inductive Event where
  | act (a : Action)
  | formless (k : Nat)

/-- The request whose event this is. -/
def Event.request? : Event → Option Nat
  | .act (.call k _) | .formless k => some k
  | _ => none

/-- The request that is written, or fails to be. -/
def Action.writes? : Action → Option Nat
  | .call k .write | .call k (.writeFails _) => some k
  | _ => none

/-- What an event makes of everything. What is wrong with the parameters of a request, if they have
no JSON form, is given by its place. -/
inductive TypedStep (fault? : Nat → Option Json.Fault) (s : Traffic) : Event → Traffic → Prop
  | act {a : Action} {s' : Traffic} (step : Step s a s')
      (formed : ∀ k, a.writes? = some k → fault? k = none) : TypedStep fault? s (.act a) s'
  | formless {k : Nat} {call : Call} {fault : Json.Fault} (called : s.calls[k]? = some call)
      (stage : call.stage = .registered) (fails : fault? k = some fault) :
    TypedStep fault? s (.formless k)
      { s with calls := s.calls.set k { call with stage := .ended (.error (.json fault)) } }

/-- Any number of events, the last one last. -/
inductive TypedRun (fault? : Nat → Option Json.Fault) (s : Traffic) : List Event → Traffic → Prop
  | done : TypedRun fault? s [] s
  | concat {events : List Event} {e : Event} {s' s'' : Traffic} (run : TypedRun fault? s events s')
      (last : TypedStep fault? s' e s'') : TypedRun fault? s (events ++ [e]) s''

variable {config : Server.Config} {fault? : Nat → Option Json.Fault} {s s' : Traffic} {e : Event}
  {events : List Event} {k t : Nat} {id : Int} {call : Call} {result : Except Error Json}

/-- Without such parameters nothing else happens than before. -/
theorem Run.typed {actions : List Action} {s₀ : Traffic} (h : TypedRun fault? s₀ events s)
    (hrun : Run s actions s') (hformed : ∀ a ∈ actions, ∀ k, a.writes? = some k → fault? k = none) :
    TypedRun fault? s₀ (events ++ actions.map .act) s' := by
  induction hrun generalizing events with
  | done => rwa [List.map_nil, List.append_nil]
  | step hfirst _ ih =>
    rw [List.map_cons, List.append_cons]
    exact ih (h.concat (.act hfirst (hformed _ List.mem_cons_self)))
      fun a ha => hformed a (List.mem_cons_of_mem _ ha)

/-! ## The ledger -/

/-- A request that ends, and leaves the tables and replies as they are. -/
theorem Ledger.ends (H : Ledger s) (hk : s.calls[k]? = some call)
    (result : Except Error Json) :
    Ledger { s with calls := s.calls.set k { call with stage := .ended result } } := by
  have hself := List.getElem?_set_self (a := { call with stage := .ended result })
    (List.getElem?_eq_some_iff.mp hk).1
  have registered {id : Int} (hid : s.Registered id) : Registered
      { s with calls := s.calls.set k { call with stage := .ended result } } id := by
    obtain ⟨k', call', hk', rfl, hstage⟩ := hid
    by_cases hkk : k = k'
    · subst hkk
      exact ⟨k, _, hself, rfl, nofun⟩
    · exact ⟨k', call', (List.getElem?_set_ne hkk).trans hk', rfl, hstage⟩
  refine ⟨H.nextId.trans (by rw [List.length_set]), fun {k' call'} hk' => ?_, H.bound,
    fun hw => registered (H.waiting hw), fun {t k' call'} hw hk' hlive => ?_, H.alone, H.unanswered,
    fun hr => registered (H.replied hr)⟩
  · by_cases hkk : k = k'
    · subst hkk
      cases hself.symm.trans hk'
      have hid : call.id = number k := H.ids hk
      exact hid
    · exact H.ids ((List.getElem?_set_ne hkk).symm.trans hk')
  · by_cases hkk : k = k'
    · subst hkk
      cases hself.symm.trans hk'
      cases hlive
    · exact H.present hw ((List.getElem?_set_ne hkk).symm.trans hk') hlive

namespace TypedStep

theorem ledger (h : TypedStep fault? s e s') (H : Ledger s) : Ledger s' := by
  cases h with
  | act hstep => exact H.step hstep
  | formless hcalled => exact H.ends hcalled _

/-- After an event a request stands in a table if the event registered it there, or if it stood
there and the event was not its fate. -/
theorem isWaitingIn_iff (h : TypedStep fault? s e s') (H : Ledger s) (t : Nat) (id : Int) :
    s'.client.isWaitingIn t id = true ↔
      (∃ k : Nat, e = .act (.call k .register) ∧ id = number k ∧ t = s.client.table) ∨
        (s.client.isWaitingIn t id = true ∧ ∀ a, e = .act a → fate t id a = none) := by
  cases h with
  | act hstep => simpa using H.isWaitingIn_step hstep t id
  | formless => simp

/-- What a request does changes nothing about the others. -/
theorem isWaitingIn_of_ne (h : TypedStep fault? s e s') (H : Ledger s) (hk : e.request? = some k)
    (hid : id ≠ number k) (t : Nat) : s'.client.isWaitingIn t id = s.client.isWaitingIn t id := by
  refine Bool.eq_iff_iff.mpr ((h.isWaitingIn_iff H t id).trans ?_)
  constructor
  · rintro (⟨k', rfl, rfl, -⟩ | ⟨hw, -⟩)
    · cases hk
      exact absurd rfl hid
    · exact hw
  · refine fun hw => .inr ⟨hw, ?_⟩
    rintro a rfl
    cases a with
    | call k' action =>
      cases hk
      cases action with
      | withdraw => exact if_neg hid
      | _ => rfl
    | _ => cases hk

/-- A request that stands in a table stays there unless the event is its fate. -/
theorem isWaitingIn_of_waiting (h : TypedStep fault? s e s') (H : Ledger s)
    (hw : s.client.isWaitingIn t id = true) :
    s'.client.isWaitingIn t id = true ↔ ∀ a, e = .act a → fate t id a = none := by
  rw [h.isWaitingIn_iff H t id]
  constructor
  · rintro (⟨k, rfl, -⟩ | ⟨-, hfate⟩)
    · rintro a ⟨⟩
      rfl
    · exact hfate
  · exact fun hfate => .inr ⟨hw, hfate⟩

/-- A request that has ended and stands in a table was there before the event already, or it found
that its parameters have no JSON form. -/
theorem ended_back (h : TypedStep fault? s e s') (H : Ledger s)
    (hw : s'.client.isWaitingIn t (number k) = true) (hk : s'.calls[k]? = some call)
    (hended : call.stage = .ended result) :
    s.client.isWaitingIn t (number k) = true ∧ (e = .formless k ∨
      (∀ a, e = .act a → fate t (number k) a = none) ∧ s.calls[k]? = some call) := by
  cases h with
  | act hstep =>
    obtain ⟨hbefore, hfate, hk'⟩ := H.ended_back hstep hw hk hended
    exact ⟨hbefore, .inr ⟨fun a ha => by cases ha; exact hfate, hk'⟩⟩
  | @formless k' _ _ hcalled =>
    refine ⟨hw, ?_⟩
    by_cases hkk : k' = k
    · exact .inl (hkk ▸ rfl)
    · exact .inr ⟨nofun, (List.getElem?_set_ne hkk).symm.trans hk⟩

/-- A request that stands in a table can find there that its parameters have no JSON form. Then it
returns, and its number stays. -/
theorem exists_formless {fault : Json.Fault} (hk : s.calls[k]? = some call)
    (hstage : call.stage = .registered) (hfault : fault? k = some fault)
    (hw : s.client.isWaitingIn t (number k) = true) :
    ∃ s', TypedStep fault? s (.formless k) s' ∧
      s'.calls[k]? = some { call with stage := .ended (.error (.json fault)) } ∧
        s'.client.isWaitingIn t (number k) = true :=
  ⟨_, .formless hk hstage hfault, List.getElem?_set_self (List.getElem?_eq_some_iff.mp hk).1, hw⟩

end TypedStep

/-! ## Runs -/

namespace TypedRun

theorem ledger (h : TypedRun fault? s events s') (H : Ledger s) : Ledger s' := by
  induction h with
  | done => exact H
  | concat _ hlast ih => exact hlast.ledger ih

theorem isWaitingIn_of_waiting (h : TypedRun fault? s events s') (H : Ledger s)
    (hw : s.client.isWaitingIn t id = true) (hfate : ∀ a, .act a ∈ events → fate t id a = none) :
    s'.client.isWaitingIn t id = true := by
  induction h with
  | done => exact hw
  | concat hrun hlast ih =>
    have hbefore := ih fun a ha => hfate a (List.mem_append_left _ ha)
    refine (hlast.isWaitingIn_of_waiting (hrun.ledger H) hbefore).mpr fun a ha => ?_
    exact hfate a (List.mem_append_right _ (List.mem_singleton.mpr ha.symm))

/-- A request found that its parameters have no JSON form when it stood in a table, and nothing that
happened since took it out. -/
def Left (fault? : Nat → Option Json.Fault) (s₀ : Traffic) (events : List Event) (s : Traffic)
    (k t : Nat) : Prop :=
  ∃ before after s₁, events = before ++ .formless k :: after ∧ TypedRun fault? s₀ before s₁ ∧
    TypedRun fault? s₁ (.formless k :: after) s ∧ s₁.client.isWaitingIn t (number k) = true ∧
      ∀ a, .act a ∈ after → fate t (number k) a = none

/-- A request that has ended stands in a table only if it was left there. -/
theorem left_of_waiting {s₀ : Traffic} (h : TypedRun fault? s₀ events s) (H : Ledger s₀)
    (hs₀ : Unended s₀) (hk : s.calls[k]? = some call) (hended : call.stage = .ended result)
    (hw : s.client.isWaitingIn t (number k) = true) : Left fault? s₀ events s k t := by
  induction h with
  | done => exact absurd hended (hs₀ t k call result hw hk)
  | concat hrun hlast ih =>
    obtain ⟨hw', rfl | ⟨hfate, hk'⟩⟩ := hlast.ended_back (hrun.ledger H) hw hk hended
    · exact ⟨_, [], _, rfl, hrun, .concat .done hlast, hw', nofun⟩
    · obtain ⟨before, after, s₁, rfl, hbefore, hafter, hw₁, hkept⟩ := ih hk' hw'
      refine ⟨before, after ++ [_], s₁, by rw [List.append_assoc, List.cons_append], hbefore,
        List.cons_append ▸ hafter.concat hlast, hw₁, fun a ha => ?_⟩
      rcases List.mem_append.mp ha with ha | ha
      · exact hkept a ha
      · exact hfate a (List.mem_singleton.mp ha).symm

theorem waiting_of_left {s₀ : Traffic} (H : Ledger s₀) (h : Left fault? s₀ events s k t) :
    s.client.isWaitingIn t (number k) = true := by
  obtain ⟨before, after, s₁, -, hbefore, hafter, hw, hfate⟩ := h
  refine hafter.isWaitingIn_of_waiting (hbefore.ledger H) hw fun a ha => hfate a ?_
  exact (List.mem_cons.mp ha).resolve_left nofun

/-- A request that returned stands in a table if and only if it was left there: it returned because
its parameters have no JSON form, and nothing took it out since. -/
theorem waiting_iff_left (h : TypedRun fault? (.initial config) events s)
    (hk : s.calls[k]? = some call) (hended : call.stage = .ended result) (t : Nat) :
    s.client.isWaitingIn t (number k) = true ↔ Left fault? (.initial config) events s k t :=
  ⟨h.left_of_waiting (.initial config) (fun _ _ _ _ _ hk => by cases hk) hk hended,
    waiting_of_left (.initial config)⟩

theorem exists_fault (h : TypedRun fault? s events s') (hmem : .formless k ∈ events) :
    ∃ fault, fault? k = some fault := by
  induction h with
  | done => cases hmem
  | concat _ hlast ih =>
    rcases List.mem_append.mp hmem with hmem | hmem
    · exact ih hmem
    · cases List.mem_singleton.mp hmem
      cases hlast with | formless _ _ hfails => exact ⟨_, hfails⟩

/-- What becomes of the numbers in the tables, whatever the parameters of requests are and whatever
happens in which order. A request that is turned away changes nothing. What one request does changes
nothing about the others: they stand in their tables until a response with their number is read,
they are withdrawn themselves, or their table is closed. A request whose parameters have a JSON form
stands in no table when it has returned, in whatever way it did. -/
theorem entries (h : TypedRun fault? (.initial config) events s) :
    (∀ method params s', TypedStep fault? s (.act (.turnAway method params)) s' → s' = s) ∧
    (∀ e k s', TypedStep fault? s e s' → e.request? = some k → ∀ t id, id ≠ number k →
      s'.client.isWaitingIn t id = s.client.isWaitingIn t id) ∧
    (∀ e t id s', TypedStep fault? s e s' → s.client.isWaitingIn t id = true →
      (s'.client.isWaitingIn t id = true ↔ ∀ a, e = .act a → fate t id a = none)) ∧
    ∀ (k : Nat) (call : Call) (result : Except Error Json), s.calls[k]? = some call →
      call.stage = .ended result → fault? k = none →
        ∀ t, s.client.isWaitingIn t (number k) = false := by
  have H := h.ledger (.initial config)
  refine ⟨fun method params s' hstep => ?_, fun e k s' hstep hk t id hid => ?_,
    fun e t id s' hstep hw => hstep.isWaitingIn_of_waiting H hw,
    fun k call result hk hended hnone t => Bool.eq_false_iff.mpr fun hw => ?_⟩
  · cases hstep with | act hstep => cases hstep; rfl
  · exact hstep.isWaitingIn_of_ne H hk hid t
  · obtain ⟨before, after, _, rfl, -⟩ := (h.waiting_iff_left hk hended t).mp hw
    obtain ⟨fault, hfault⟩ := h.exists_fault (List.mem_append_right _ List.mem_cons_self)
    rw [hnone] at hfault
    cases hfault

/-- A request that could not be written has left its table. -/
theorem entries_unwritten :
    ∃ s call, TypedRun (fun _ => none) (.initial (.analyzer "wa"))
        ([.owner .beginStart, .owner .attach, .owner (.introduce 1 none), .call 0 .register,
          .call 0 (.writeFails .brokenPipe), .call 0 .withdraw].map .act) s ∧
      s.calls[0]? = some call ∧ call.stage = .ended (.error (.transport .brokenPipe)) ∧
        ∀ t, s.client.isWaitingIn t (number 0) = false := by
  obtain ⟨s, call, hrun, hk, hended⟩ : ∃ s call, Run (.initial (.analyzer "wa"))
      [.owner .beginStart, .owner .attach, .owner (.introduce 1 none), .call 0 .register,
        .call 0 (.writeFails .brokenPipe), .call 0 .withdraw] s ∧
      s.calls[0]? = some call ∧ call.stage = .ended (.error (.transport .brokenPipe)) :=
    ⟨_, _, .step (.owner (.beginStart ⟨rfl, nofun⟩)) <| .step (.owner (.attach rfl)) <|
      .step (.owner (.introduce 1 none rfl rfl)) <| .step (.call rfl (.register rfl rfl)) <|
      .step (.call rfl (.writeFails .brokenPipe rfl)) <| .step (.call rfl (.withdraw rfl)) <|
      .done _, rfl, rfl⟩
  have htyped := hrun.typed (.done : TypedRun (fun _ => none) _ _ _) fun _ _ _ _ => rfl
  obtain ⟨-, -, -, hreturned⟩ := entries htyped
  exact ⟨s, call, htyped, hk, hended, hreturned 0 call _ hk hended rfl⟩

end TypedRun

/-- Of two requests that await their responses, in the table of a server whose start was given up,
the first one returns because the output of the server ends. The second one is still under way, and
does not stand in the table any more. -/
theorem Run.forsakes_others :
    ∃ s s' first second, Run (.initial (.analyzer "wa"))
        [.owner .beginStart, .owner .attach, .owner (.introduce 1 none), .call 0 .drop,
          .owner .abandon, .begin "first" .null, .begin "second" .null, .call 1 .register,
          .call 2 .register, .call 1 .write, .call 2 .write] s ∧
      s.client.isWaitingIn 1 (number 2) = true ∧
      Run s [.hangUp 0, .reader 0 1 (.leave Exchange.endOfStream), .reader 0 1 .close,
        .call 1 .receive] s' ∧
      s'.calls[1]? = some first ∧ first.stage = .ended (.error (.cancelled "first")) ∧
      s'.calls[2]? = some second ∧ second.stage = .sent ∧
        s'.client.isWaitingIn 1 (number 2) = false :=
  ⟨_, _, _, _, .step (.owner (.beginStart ⟨rfl, nofun⟩)) <| .step (.owner (.attach rfl)) <|
    .step (.owner (.introduce 1 none rfl rfl)) <| .step (.call rfl (.drop rfl)) <|
    .step (.owner (.abandon (fun _ h => List.mem_singleton.mp h ▸ rfl)
      (.inr (.inr (.inr ⟨0, .inl rfl⟩))))) <|
    .step (.begin "first" .null rfl rfl) <| .step (.begin "second" .null rfl rfl) <|
    .step (.call rfl (.register rfl rfl)) <| .step (.call rfl (.register rfl rfl)) <|
    .step (.call rfl (.write rfl)) <| .step (.call rfl (.write rfl)) <| .done _, rfl,
    .step (.hangUp rfl) <|
    .step (.reader rfl (.leave rfl (.finished Protocol.Sent.read_transmit_nil))) <|
    .step (.reader rfl (.close rfl)) <| .step (.call rfl (.receive rfl rfl)) <| .done _,
    rfl, rfl, rfl, rfl, rfl⟩

end AnalyzerClient.Traffic
