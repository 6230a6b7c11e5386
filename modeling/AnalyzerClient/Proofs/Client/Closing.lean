import AnalyzerClient.Proofs.Client.Correlation
import AnalyzerClient.Proofs.Client.Starts

/-!
# The end of a server

A reader that left its loop can do nothing but close its table, and nothing keeps it from that
(`Step.close_of_left`). From then on the table is closed and empty (`Run.current_closed`), no
request waits for a response that cannot come (`Ledger.ends_alone`), requests that were under way
fail (`Run.forsaken`), and requests that come later fail and write nothing (`Run.refused`).
-/

namespace AnalyzerClient

open AnalyzerClient.Protocol (Error)

/-- The table that takes no more requests and has none. -/
def PendingTable.shut : PendingTable := ⟨true, []⟩

namespace Client

variable {c c' : Client} {t : Nat} {f : PendingTable → PendingTable}

theorem current_updateTable (hf : f .shut = .shut) (hc : c.current = .shut) :
    (c.updateTable t f).current = .shut := by
  have hcurrent : c.tables[c.table]? = some .shut := by
    rw [current, List.getD_eq_getElem?_getD] at hc
    cases htable : c.tables[c.table]? with
    | none => rw [htable] at hc; cases hc
    | some table => rw [htable] at hc; exact congrArg some hc
  have hmodify : (c.updateTable t f).tables[c.table]? = some .shut := by
    rw [tables_updateTable, List.getElem?_modify, hcurrent]
    by_cases ht : t = c.table <;> simp [ht, hf]
  rw [current, List.getD_eq_getElem?_getD]
  exact congrArg (·.getD .empty) hmodify

theorem current_close (h : c.table < c.tables.length) :
    (c.updateTable c.table (·.close)).current = .shut := by
  rw [current, tables_updateTable, List.getD_eq_getElem?_getD, List.getElem?_modify]
  simp [updateTable, List.getElem?_eq_getElem h, PendingTable.close, PendingTable.shut]

end Client

namespace Traffic

variable {config : Server.Config} {s s₁ s₂ s' : Traffic} {a : Action} {actions : List Action}
  {k server t : Nat} {call : Call}

/-! ## Leaving and closing -/

/-- A reader that left its loop closes its table: this is what it can do, and nobody else does
anything to it. -/
theorem Step.close_of_left {st : Stream} {reason : String} (hst : s.streams[server]? = some st)
    (hleft : st.stage = .left reason) :
    (∃ s', Step s (.reader server (s.client.tableOf server) .close) s') ∧
      ∀ a s', Step s a s' → a = .reader server (s.client.tableOf server) .close ∨
        ∃ st', s'.streams[server]? = some st' ∧ st'.stage = .left reason := by
  refine ⟨⟨_, .reader hst (.close hleft)⟩, fun a s' h => ?_⟩
  -- the stream of another server, or this one with the same stage
  have replaced {i : Nat} {st₁ st₂ : Stream} (hi : s.streams[i]? = some st₁)
      (hstage : i = server → st₂.stage = st₁.stage) :
      ∃ st', (s.streams.set i st₂)[server]? = some st' ∧ st'.stage = .left reason := by
    by_cases his : i = server
    · subst his
      cases hi.symm.trans hst
      exact ⟨st₂, List.getElem?_set_self (List.getElem?_eq_some_iff.mp hst).1,
        (hstage rfl).trans hleft⟩
    · exact ⟨st, by rw [List.getElem?_set_ne his, hst], hleft⟩
  cases h with
  | arrive octets hstream hopened => exact .inr (replaced hstream fun _ => rfl)
  | hangUp hstream => exact .inr (replaced hstream fun _ => rfl)
  | @reader i st₁ st₂ action c parcels hstream hstep =>
    by_cases hi : i = server
    · subst hi
      cases hstream.symm.trans hst
      cases hstep with
      | close => exact .inl rfl
      | vanish hdoomed hstage =>
        rcases hstage with hstage | ⟨answer, hstage⟩ <;>
          · rw [hleft] at hstage; cases hstage
      | read hstage | answer hstage | answerFails _ hstage | leave hstage | breakDown hstage
      | expect hstage | condemn hstage | fail hstage | tell hstage =>
        rw [hleft] at hstage; cases hstage
    · exact .inr (replaced hstream fun he => absurd he hi)
  | owner hstep =>
    refine .inr ?_
    cases hstep with
    | attach howner =>
      refine ⟨st, ?_, hleft⟩
      rw [List.getElem?_append_left (List.getElem?_eq_some_iff.mp hst).1, hst]
    | detach howner =>
      exact ⟨{ st with doomed := true }, by rw [List.getElem?_map, hst]; rfl, hleft⟩
    | _ => exact ⟨st, hst, hleft⟩
  | begin | turnAway | notify | notifyFails | call => exact .inr ⟨st, hst, hleft⟩

theorem closed_step (h : Step s a s') (ha : a.isStart = false) (hc : s.client.current = .shut) :
    s'.client.current = .shut := by
  cases h.effect with
  | tabled => cases ha
  | registered hcalled hstage hregister =>
    have hopen := (Client.register_eq_ok hregister).1
    rw [hc] at hopen; cases hopen
  | quiet hsame | moved hsame => rw [hsame.current, hc]
  | begun hsame | attached hsame => exact hsame.current.trans hc
  | withdrawn _ _ hsame | resolved _ _ hsame | closed hsame =>
    rw [hsame.current]
    exact Client.current_updateTable rfl hc

theorem Run.current_closed (h : Run s actions s') (ha : ∀ a ∈ actions, a.isStart = false)
    (hc : s.client.current = .shut) : s'.client.current = .shut := by
  induction h with
  | done => exact hc
  | step hfirst _ ih =>
    exact ih (fun a hmem => ha a (List.mem_cons_of_mem _ hmem))
      (closed_step hfirst (ha _ List.mem_cons_self) hc)

/-- Behind a closed table no request under way stands in any table. -/
theorem Ledger.not_isWaitingIn (H : Ledger s) (hc : s.client.current = .shut)
    (hk : s.calls[k]? = some call) (hlive : call.stage.live = true) (t : Nat) :
    s.client.isWaitingIn t (number k) = false := by
  refine Bool.eq_false_iff.mpr fun hw => ?_
  have hshut : s.client.isWaitingIn s.client.table (number k) = false := by
    show s.client.current.waiting.contains (number k) = false
    rw [hc]; rfl
  rw [H.present hw hk hlive, hshut] at hw
  cases hw

/-! ## Requests under way -/

theorem exists_outcome {c : Client} {id : Int} (h : ∀ t, c.isWaitingIn t id = false)
    (method : String) : ∃ result, ExchangeM.outcome c method id = some result := by
  have hwaiting : c.isWaiting id = false := by
    refine List.any_eq_false.mpr fun table htable hw => ?_
    obtain ⟨t, ht⟩ := List.getElem?_of_mem htable
    have hin : c.isWaitingIn t id = true := by
      rw [Client.isWaitingIn, List.getD_eq_getElem?_getD, ht]; exact hw
    rw [h] at hin; cases hin
  unfold ExchangeM.outcome
  cases c.replyTo? id with
  | none => rw [hwaiting]; exact ⟨_, rfl⟩
  | some reply => cases reply <;> exact ⟨_, rfl⟩

/-- What a request does by itself to end, in a run of its own actions. -/
def EndsAlone (s : Traffic) (k : Nat) (call : Call) (bound : Nat) : Prop :=
  ∃ actions s' result, Run s actions s' ∧ actions.length ≤ bound ∧
    (∀ a ∈ actions, ∃ action, a = .call k action ∧ action ≠ .drop) ∧
    s'.calls[k]? = some { call with stage := .ended result }

theorem EndsAlone.last {action : CallAction} {c : Client} {result : Except Error Json}
    (hk : s.calls[k]? = some call)
    (h : CallStep k s.client call action c (.ended result) []) (ha : action ≠ .drop) :
    EndsAlone s k call 1 := by
  refine ⟨[.call k action], _, result, .step (.call hk h) (.done _), Nat.le_refl 1, ?_, ?_⟩
  · intro a hmem
    exact ⟨action, List.mem_singleton.mp hmem, ha⟩
  · exact List.getElem?_set_self (List.getElem?_eq_some_iff.mp hk).1

/-- A request that is under way behind a closed table comes to its end by at most two actions of its
own. -/
theorem Ledger.ends_alone (H : Ledger s) (hc : s.client.current = .shut)
    (hk : s.calls[k]? = some call) (hlive : call.stage.live = true) : EndsAlone s k call 2 := by
  have one (h : EndsAlone s k call 1) : EndsAlone s k call 2 := by
    obtain ⟨actions, s', result, hrun, hlength, hactions, hend⟩ := h
    exact ⟨actions, s', result, hrun, Nat.le_succ_of_le hlength, hactions, hend⟩
  have receives {s : Traffic} {call : Call} (H : Ledger s) (hc : s.client.current = .shut)
      (hk : s.calls[k]? = some call) (hstage : call.stage = .sent) : EndsAlone s k call 1 := by
    have hout := H.not_isWaitingIn hc hk (by rw [hstage]; rfl)
    rw [← H.ids hk] at hout
    obtain ⟨result, houtcome⟩ := exists_outcome hout call.method
    exact .last hk (.receive hstage houtcome) (by rintro ⟨⟩)
  cases hstage : call.stage with
  | issued =>
    have hrefused : s.client.register call.id = .error .notRunning := by
      rw [Client.register, hc]; rfl
    exact one (.last hk (.refuse hstage hrefused) (by rintro ⟨⟩))
  | registered =>
    have hwrite := Step.call hk (.write (k := k) (c := s.client) hstage)
    have hk₁ := List.getElem?_set_self (a := { call with stage := .sent })
      (List.getElem?_eq_some_iff.mp hk).1
    obtain ⟨actions, s', result, hrun, hlength, hactions, hend⟩ :=
      receives (H.step hwrite) (closed_step hwrite rfl hc) hk₁ rfl
    refine ⟨_ :: actions, s', result, .step hwrite hrun, Nat.succ_le_succ hlength, ?_, hend⟩
    rintro a (_ | ⟨_, hmem⟩)
    · exact ⟨.write, rfl, by rintro ⟨⟩⟩
    · exact hactions a hmem
  | unsent cause => exact one (.last hk (.withdraw hstage) (by rintro ⟨⟩))
  | sent => exact one (receives H hc hk hstage)
  | ended | dropped => rw [hstage] at hlive; cases hlive

/-- What may become of a request that was under way when its table was closed: it has not ended yet,
it was given up, or it failed. -/
def Forsaken (call : Call) : Prop :=
  (call.stage.live = true ∧ call.stage ≠ .issued) ∨ call.stage = .dropped ∨
    call.stage = .ended (.error (.cancelled call.method)) ∨
    ∃ cause, call.stage = .ended (.error (.transport cause))

theorem Forsaken.ne_issued (h : Forsaken call) : call.stage ≠ .issued := by
  rcases h with ⟨-, h⟩ | h | h | ⟨_, h⟩
  · exact h
  all_goals rw [h]; nofun

theorem Forsaken.callStep {c c' : Client} {action : CallAction} {stage : Stage}
    {parcels : List Parcel} (hf : Forsaken call) (hr : c.replyTo? call.id = none)
    (h : CallStep k c call action c' stage parcels) : Forsaken { call with stage := stage } := by
  cases h with
  | register hstage | refuse hstage => exact absurd hstage hf.ne_issued
  | write | writeFails => exact .inl ⟨rfl, nofun⟩
  | withdraw => exact .inr (.inr (.inr ⟨_, rfl⟩))
  | receive hstage houtcome =>
    rcases ExchangeM.outcome_eq_some houtcome with ⟨reply, hreply, -⟩ | ⟨-, -, rfl⟩
    · rw [hr] at hreply; cases hreply
    · exact .inr (.inr (.inl rfl))
  | drop => exact .inr (.inl rfl)

/-- A request that stands in no table and has no reply never gets one. -/
theorem Run.forsaken (h : Run s actions s') (H : Ledger s) (hk : s.calls[k]? = some call)
    (hf : Forsaken call) (hout : ∀ t, s.client.isWaitingIn t (number k) = false)
    (hr : s.client.replyTo? (number k) = none) :
    ∃ call', s'.calls[k]? = some call' ∧ Forsaken call' := by
  induction h generalizing call with
  | done => exact ⟨call, hk, hf⟩
  | @step s s₁ s' a actions hfirst _ ih =>
    obtain ⟨hout₁, hr₁⟩ := (Run.step hfirst (.done s₁)).keeps_reply H
      ⟨k, call, hk, rfl, hf.ne_issued⟩ hout
    rw [hr] at hr₁
    rcases hfirst.call_cases hk with hk₁ | ⟨action, c, stage, parcels, -, hstep, hk₁⟩
    · exact ih (H.step hfirst) hk₁ hf hout₁ hr₁
    · exact ih (H.step hfirst) hk₁ (hf.callStep (by rw [H.ids hk, hr]) hstep) hout₁ hr₁

/-- A request fails with the failure of its own write only. -/
theorem Run.writeFails_mem (h : Run s actions s') {cause : OsError}
    (hk : s'.calls[k]? = some call)
    (hstage : call.stage = .unsent cause ∨ call.stage = .ended (.error (.transport cause))) :
    .call k (.writeFails cause) ∈ actions ∨ ∃ before, s.calls[k]? = some before ∧
      (before.stage = .unsent cause ∨ before.stage = .ended (.error (.transport cause))) := by
  induction h with
  | done => exact .inr ⟨call, hk, hstage⟩
  | @step s s₁ s' a actions hfirst _ ih =>
    rcases ih hk with hmem | ⟨call₁, hk₁, hstage₁⟩
    · exact .inl (List.mem_cons_of_mem _ hmem)
    · rcases Ledger.call_back hfirst hk₁ with
        ⟨before, hbefore, rfl | ⟨action, c, stage, parcels, rfl, hstep, rfl⟩⟩ | ⟨-, -, hissued⟩
      · exact .inr ⟨_, hbefore, hstage₁⟩
      · cases hstep with
        | writeFails cause' => 
          rcases hstage₁ with hs | hs <;> cases hs
          exact .inl List.mem_cons_self
        | withdraw hunsent =>
          rcases hstage₁ with hs | hs <;> cases hs
          exact .inr ⟨before, hbefore, .inl hunsent⟩
        | refuse _ herror =>
          rw [(Client.register_eq_error herror).2] at hstage₁
          rcases hstage₁ with hs | hs <;> cases hs
        | receive _ houtcome =>
          rcases hstage₁ with hs | hs <;> cases hs
          rcases ExchangeM.outcome_eq_some houtcome with ⟨reply, -, he⟩ | ⟨-, -, he⟩
          · cases reply <;> cases he
          · cases he
        | register | write | drop => rcases hstage₁ with hs | hs <;> cases hs
      · rw [hissued] at hstage₁
        rcases hstage₁ with hs | hs <;> cases hs

/-! ## Later requests -/

/-- A request that fails and writes nothing, or has not yet failed. -/
def Refused (s : Traffic) (k : Nat) : Prop :=
  (∀ call, s.calls[k]? = some call → call.stage = .issued ∨ call.stage = .dropped ∨
    call.stage = .ended (.error .notRunning)) ∧ ∀ p ∈ s.parcels, p.author ≠ .call k

/-- Who wrote the messages that a step adds. -/
theorem parcels_step (h : Step s a s') {p : Parcel} (hp : p ∈ s'.parcels)
    (hauthor : p.author = .call k) :
    p ∈ s.parcels ∨ ∃ call, s.calls[k]? = some call ∧ call.stage = .registered := by
  have other {q : Parcel} (hq : p ∈ s.parcels ++ [q]) (hne : q.author ≠ .call k) :
      p ∈ s.parcels := by
    rcases List.mem_append.mp hq with hq | hq
    · exact hq
    · rw [List.mem_singleton.mp hq] at hauthor; exact absurd hauthor hne
  cases h with
  | notify => exact .inl (other hp nofun)
  | call hcalled hstep =>
    cases hstep with
    | write hstage =>
      rcases List.mem_append.mp hp with hp | hp
      · exact .inl hp
      · rw [List.mem_singleton.mp hp] at hauthor
        cases hauthor
        exact .inr ⟨_, hcalled, hstage⟩
    | _ => exact .inl (by simpa using hp)
  | reader hstream hstep =>
    cases hstep with
    | answer => exact .inl (other hp nofun)
    | _ => exact .inl (by simpa using hp)
  | owner hstep =>
    cases hstep with
    | acknowledge | sayExit => exact .inl (other hp nofun)
    | _ => exact .inl hp
  | begin | turnAway | notifyFails | arrive | hangUp => exact .inl hp

/-- A request that wrote something was registered. -/
theorem Run.registered_of_author (h : Run s actions s') {p : Parcel} (hp : p ∈ s'.parcels)
    (hauthor : p.author = .call k) : s'.Registered (number k) ∨ p ∈ s.parcels := by
  induction h with
  | done => exact .inr hp
  | step hfirst hrest ih =>
    refine (ih hp).elim .inl fun hp => ?_
    rcases parcels_step hfirst hp hauthor with hp | ⟨call, hk, hstage⟩
    · exact .inr hp
    · have hid : Registered _ (number k) := ⟨k, call, hk, rfl, by rw [hstage]; nofun⟩
      exact .inl (hrest.registered (Ledger.registered_step hfirst hid))

theorem Refused.step (hk : Refused s k) (h : Step s a s') (hc : s.client.current = .shut) :
    Refused s' k := by
  refine ⟨fun call hcall => ?_, fun p hp hauthor => ?_⟩
  · rcases Ledger.call_back h hcall with
      ⟨before, hbefore, rfl | ⟨action, c, stage, parcels, rfl, hstep, rfl⟩⟩ | ⟨-, -, hissued⟩
    · exact hk.1 _ hbefore
    · have hstages := hk.1 _ hbefore
      cases hstep with
      | register _ hok =>
        have hopen := (Client.register_eq_ok hok).1
        rw [hc] at hopen; cases hopen
      | refuse _ herror => exact .inr (.inr (by rw [(Client.register_eq_error herror).2]))
      | drop => exact .inr (.inl rfl)
      | write hstage | writeFails _ hstage | withdraw hstage | receive hstage =>
        rw [hstage] at hstages
        rcases hstages with hs | hs | hs <;> cases hs
    · exact .inl hissued
  · rcases parcels_step h hp hauthor with hp | ⟨call, hcall, hstage⟩
    · exact hk.2 p hp hauthor
    · have hstages := hk.1 _ hcall
      rw [hstage] at hstages
      rcases hstages with hs | hs | hs <;> cases hs

theorem Run.refused (h : Run s actions s') (ha : ∀ a ∈ actions, a.isStart = false)
    (hc : s.client.current = .shut) (hk : Refused s k) : Refused s' k := by
  induction h with
  | done => exact hk
  | step hfirst _ ih =>
    exact ih (fun a hmem => ha a (List.mem_cons_of_mem _ hmem))
      (closed_step hfirst (ha _ List.mem_cons_self) hc) (hk.step hfirst hc)

/-! ## The whole end -/

/-- A server has a reader only after a start. -/
theorem Started.pos {n : Nat} (H : Started s n) (hserver : server < s.streams.length) : 0 < n := by
  rw [H.streams] at hserver
  have hreader := H.readers _ (List.getElem_mem hserver)
  exact Nat.lt_of_lt_of_le hreader.1 hreader.2

/-- What closing its table does when the client was started once. -/
theorem Step.close_once (h : Step s₁ (.reader server t .close) s₂) (H : Ledger s₁)
    (hstarted : Started s₁ 1) :
    s₂.client.current = .shut ∧ s₂.calls = s₁.calls ∧ s₂.parcels = s₁.parcels ∧
      s₂.client.replies = s₁.client.replies := by
  cases h with
  | reader hstream hstep =>
    cases hstep with
    | close hstage =>
      refine ⟨?_, rfl, List.append_nil _, rfl⟩
      show (s₁.client.closeTable server).current = .shut
      rw [Client.closeTable, hstarted.tableOf_eq (List.getElem?_eq_some_iff.mp hstream).1]
      exact Client.current_close H.bound

/-- No request is left waiting when a server is gone, for a client that was started once. A reader
that left its loop closes its table: nothing else can happen to it. After that, whatever happens,
the table is closed and empty; a request that was registered before and has no reply has not ended
yet, or it fails as cancelled or with the failure of its own write; a request that comes later, or
was not yet registered, fails because there is no server, and writes nothing; and every request that
is under way ends by two actions of its own at most, whatever the others do. -/
theorem Run.closing {before : List Action} {st : Stream} {reason : String}
    (hbefore : Run (.initial config) before s₁) (hst : s₁.streams[server]? = some st)
    (hleft : st.stage = .left reason) :
    ((∃ s₂, Step s₁ (.reader server (s₁.client.tableOf server) .close) s₂) ∧
      ∀ a s', Step s₁ a s' → a = .reader server (s₁.client.tableOf server) .close ∨
        ∃ st', s'.streams[server]? = some st' ∧ st'.stage = .left reason) ∧
    ∀ s₂ after s, Step s₁ (.reader server (s₁.client.tableOf server) .close) s₂ →
      Run s₂ after s → (before ++ after).countP (·.isStart) = 1 →
      s.client.current = .shut ∧
      (∀ (k : Nat) (call : Call), s₁.calls[k]? = some call → call.stage.live = true →
        call.stage ≠ .issued → s₁.client.replyTo? (number k) = none →
        ∃ call', s.calls[k]? = some call' ∧ Forsaken call' ∧
          ∀ cause, call'.stage = .ended (.error (.transport cause)) →
            .call k (.writeFails cause) ∈ before ++ after) ∧
      (∀ k : Nat, (∀ call, s₁.calls[k]? = some call → call.stage = .issued) → Refused s k) ∧
      ∀ (k : Nat) (call : Call), s.calls[k]? = some call → call.stage.live = true →
        EndsAlone s k call 2 := by
  refine ⟨Step.close_of_left hst hleft, fun s₂ after s hclose hafter hstarts => ?_⟩
  have H₁ := hbefore.ledger (.initial config)
  have H₂ := H₁.step hclose
  have hstarted := hbefore.started (.initial config)
  have hpos := hstarted.pos (List.getElem?_eq_some_iff.mp hst).1
  rw [List.countP_append] at hstarts
  have honce : 0 + before.countP (·.isStart) = 1 := by omega
  have hzero : after.countP (·.isStart) = 0 := by omega
  have hnone : ∀ a ∈ after, a.isStart = false := fun a ha =>
    Bool.eq_false_iff.mpr (List.countP_eq_zero.mp hzero a ha)
  rw [honce] at hstarted
  obtain ⟨hshut, hcalls, hparcels, hreplies⟩ := hclose.close_once H₁ hstarted
  refine ⟨hafter.current_closed hnone hshut, fun k call hk hlive hstage hr => ?_,
    fun k hk => hafter.refused hnone hshut ⟨fun call hcall => ?_, fun p hp hauthor => ?_⟩,
    fun k call hk hlive =>
      (hafter.ledger H₂).ends_alone (hafter.current_closed hnone hshut) hk hlive⟩
  · have hk₂ : s₂.calls[k]? = some call := by rw [hcalls, hk]
    have hr₂ : s₂.client.replyTo? (number k) = none := by
      rw [Client.replyTo?, hreplies, ← Client.replyTo?, hr]
    obtain ⟨call', hk', hf⟩ := hafter.forsaken H₂ hk₂ (.inl ⟨hlive, hstage⟩)
      (H₂.not_isWaitingIn hshut hk₂ hlive) hr₂
    refine ⟨call', hk', hf, fun cause hcause => ?_⟩
    have hrun := hbefore.append (.step hclose hafter)
    rcases hrun.writeFails_mem hk' (.inr hcause) with hmem | ⟨_, hnil, -⟩
    · simpa using hmem
    · cases hnil
  · rw [hcalls] at hcall
    exact .inl (hk call hcall)
  · rw [hparcels] at hp
    rcases hbefore.registered_of_author hp hauthor with ⟨k', call, hk', hid, hstage⟩ | hnil
    · obtain rfl := number_inj.mp hid
      exact hstage (hk call hk')
    · cases hnil

/-- A server goes away while the first request awaits its response: the request is cancelled. -/
theorem Run.closing_first_request :
    ∃ s₁ s₂ s, Run (.initial (.analyzer "wa")) [.owner .beginStart, .owner .attach,
        .owner (.introduce 1 none), .call 0 .register, .call 0 .write, .hangUp 0,
        .reader 0 1 (.leave Exchange.endOfStream)] s₁ ∧
      Step s₁ (.reader 0 1 .close) s₂ ∧ Run s₂ [.call 0 .receive] s ∧
      s.client.current = .shut ∧ Refused s 1 ∧
      ∃ call, s.calls[0]? = some call ∧ Forsaken call ∧
        call.stage = .ended (.error (.cancelled "initialize")) := by
  have hends : Stream.Ends ⟨[], true, false, .reading⟩ Exchange.endOfStream := by
    refine .finished ?_
    rw [Protocol.Frame.read, Protocol.Frame.readHeaders]
    rfl
  obtain ⟨s₁, hrun, hst, ⟨params, hcalls⟩, htable, htables, hreplies⟩ :
      ∃ s₁, Run (.initial (.analyzer "wa")) [.owner .beginStart, .owner .attach,
          .owner (.introduce 1 none), .call 0 .register, .call 0 .write, .hangUp 0,
          .reader 0 1 (.leave Exchange.endOfStream)] s₁ ∧
        s₁.streams[0]? = some ⟨[], true, false, .left Exchange.endOfStream⟩ ∧
        (∃ params, s₁.calls = [⟨1, "initialize", params, 0, .sent⟩]) ∧
        s₁.client.tableOf 0 = 1 ∧ s₁.client.tables = [.empty, ⟨false, [1]⟩] ∧
        s₁.client.replies = [] :=
    ⟨_, .step (.owner (.beginStart ⟨rfl, fun _ h => absurd h List.not_mem_nil⟩)) <|
      .step (.owner (.attach rfl)) <|
      .step (.owner (.introduce 1 none rfl rfl)) <| .step (.call rfl (.register rfl rfl)) <|
      .step (.call rfl (.write rfl)) <| .step (.hangUp rfl) <|
      .step (.reader rfl (.leave rfl hends)) <| .done _, rfl, ⟨_, rfl⟩, rfl, rfl, rfl⟩
  obtain ⟨s₂, hclose, hcalls₂, hclient₂⟩ : ∃ s₂,
      Step s₁ (.reader 0 (s₁.client.tableOf 0) .close) s₂ ∧ s₂.calls = s₁.calls ∧
        s₂.client = s₁.client.closeTable 0 :=
    ⟨_, .reader hst (.close rfl), rfl, rfl⟩
  have hk : s₂.calls[0]? = some ⟨1, "initialize", params, 0, .sent⟩ := by rw [hcalls₂, hcalls]; rfl
  have houtcome : ExchangeM.outcome s₂.client "initialize" 1 =
      some (.error (.cancelled "initialize")) := by
    simp [ExchangeM.outcome, Client.replyTo?, Client.isWaiting, hclient₂, Client.closeTable,
      Client.updateTable, htable, htables, hreplies, PendingTable.close, PendingTable.empty]
  obtain ⟨s, hreceive, hend⟩ : ∃ s, Run s₂ [.call 0 .receive] s ∧ s.calls[0]? =
      some ⟨1, "initialize", params, 0, .ended (.error (.cancelled "initialize"))⟩ :=
    ⟨_, .step (.call hk (.receive rfl houtcome)) (.done _),
      List.getElem?_set_self (List.getElem?_eq_some_iff.mp hk).1⟩
  obtain ⟨hshut, hforsaken, hrefused, -⟩ :=
    (Run.closing hrun hst rfl).2 s₂ [.call 0 .receive] s hclose hreceive rfl
  obtain ⟨call, hcall, hf, -⟩ := hforsaken 0 ⟨1, "initialize", params, 0, .sent⟩
    (by rw [hcalls]; rfl) rfl (by rintro ⟨⟩) (by rw [Client.replyTo?, hreplies]; rfl)
  rw [htable] at hclose
  refine ⟨s₁, s₂, s, hrun, hclose, hreceive, hshut,
    hrefused 1 fun _ hnone => (by rw [hcalls] at hnone; cases hnone), call, hcall, hf, ?_⟩
  cases hcall.symm.trans hend
  rfl

end Traffic

end AnalyzerClient
