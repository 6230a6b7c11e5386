import AnalyzerClient.Proofs.Client.Effect

/-!
# Numbers, tables and replies

The invariant that links the numbers that were issued, the tables and the requests: a number that
stands in a table belongs to one request, which was registered and has no reply, and which stands in
the present table as long as it is under way (`Ledger`). It holds in every run (`Run.ledger`). With
it a step is known by two facts: which requests stand in which table after it
(`Ledger.isWaitingIn_step`), and which replies there are (`Ledger.replyTo?_step`).
-/

namespace AnalyzerClient.Traffic

open Client (Same responseOf?)

variable {s s' s'' : Traffic} {a : Action} {actions : List Action} {k t : Nat} {id : Int}
  {reply : Reply} {call : Call}

/-- The request with a number was registered, or refused. -/
def Registered (s : Traffic) (id : Int) : Prop :=
  ∃ k call, s.calls[k]? = some call ∧ id = number k ∧ call.stage ≠ .issued

/-- What links numbers, tables and requests. -/
structure Ledger (s : Traffic) : Prop where
  nextId : s.client.nextId = s.calls.length + 1
  ids : ∀ {k call}, s.calls[k]? = some call → call.id = number k
  bound : s.client.table < s.client.tables.length
  waiting : ∀ {t id}, s.client.isWaitingIn t id = true → s.Registered id
  present : ∀ {t k call}, s.client.isWaitingIn t (number k) = true → s.calls[k]? = some call →
    call.stage.live = true → t = s.client.table
  alone : ∀ {t t' id}, s.client.isWaitingIn t id = true → s.client.isWaitingIn t' id = true → t = t'
  unanswered : ∀ {t id}, s.client.isWaitingIn t id = true → s.client.replyTo? id = none
  replied : ∀ {id reply}, s.client.replyTo? id = some reply → s.Registered id

theorem fate_call_of_ne {action : CallAction} (h : action ≠ .withdraw) :
    fate t id (.call k action) = none := by
  cases action <;> first | rfl | exact absurd rfl h

theorem not_registered (hk : s.calls[k]? = some call) (hstage : call.stage = .issued) :
    ¬ s.Registered (number k) := by
  rintro ⟨k', call', hk', hid, hstage'⟩
  obtain rfl := number_inj.mp hid
  cases hk'.symm.trans hk
  exact hstage' hstage

namespace Ledger

/-! ## What a step does -/

/-- After a step a request stands in a table if the step registered it there, or if it stood there
and the step was not its fate. -/
theorem isWaitingIn_step (H : Ledger s) (h : Step s a s') (t : Nat) (id : Int) :
    s'.client.isWaitingIn t id = true ↔
      (∃ k : Nat, a = .call k .register ∧ id = number k ∧ t = s.client.table) ∨
        (s.client.isWaitingIn t id = true ∧ fate t id a = none) := by
  have other (P : Prop) (hregisters : ∀ k, a ≠ .call k .register) :
      ((∃ k : Nat, a = .call k .register ∧ id = number k ∧ t = s.client.table) ∨ P) ↔ P := by
    apply or_iff_right
    rintro ⟨k, hk, -⟩
    exact hregisters k hk
  have keep (hregisters : ∀ k, a ≠ .call k .register)
      (hfate : s.client.isWaitingIn t id = true → fate t id a = none) :
      s.client.isWaitingIn t id = true ↔
        (∃ k : Nat, a = .call k .register ∧ id = number k ∧ t = s.client.table) ∨
          (s.client.isWaitingIn t id = true ∧ fate t id a = none) := by
    rw [other _ hregisters]
    exact ⟨fun hw => ⟨hw, hfate hw⟩, And.left⟩
  cases h.effect with
  | quiet hsame hcalls hfate hbegins hregisters =>
    rw [hsame.isWaitingIn]
    exact keep hregisters fun hw => hfate t id hw
  | begun hsame hcalls hfate hbegins hregisters =>
    rw [hsame.isWaitingIn]
    exact keep hregisters fun _ => hfate t id
  | moved hsame hcalled hcalls hlive hmoves hearly hregisters hwithdraws =>
    rw [hsame.isWaitingIn]
    exact keep (fun k hk => by cases hk; exact hregisters rfl) fun _ => fate_call_of_ne hwithdraws
  | @registered k call c hcalled hstage hregister hsame hcalls =>
    rw [hsame.isWaitingIn, Client.isWaitingIn_register hregister H.bound, H.ids hcalled]
    refine or_congr ⟨?_, ?_⟩ ⟨fun hw => ⟨hw, rfl⟩, And.left⟩
    · rintro ⟨ht, hid⟩
      exact ⟨k, rfl, hid, ht⟩
    · rintro ⟨_, he, hid, ht⟩
      cases he
      exact ⟨ht, hid⟩
  | @withdrawn k call cause hcalled hstage hsame hcalls =>
    rw [hsame.isWaitingIn, Client.withdraw, Client.isWaitingIn_remove, H.ids hcalled,
      other _ (by rintro _ ⟨⟩)]
    have hfate : fate t id (.call k .withdraw) = none ↔ id ≠ number k := by simp [fate]
    rw [hfate]
    refine and_congr_right fun hw => not_congr ⟨And.right, ?_⟩
    rintro rfl
    exact ⟨H.present hw hcalled (by rw [hstage]; rfl), rfl⟩
  | tabled hfree hsame hcalls hstreams =>
    rw [hsame.isWaitingIn, Client.isWaitingIn_beginStart]
    exact keep (by rintro _ ⟨⟩) fun _ => rfl
  | attached hsame hcalls howner =>
    rw [hsame.isWaitingIn]
    exact keep (by rintro _ ⟨⟩) fun _ => rfl
  | @resolved server message id' reply hresponse hwaiting hsame hcalls =>
    have hfate : fate t id (.reader server (s.client.tableOf server) (.read message)) = none ↔
        ¬ (t = s.client.tableOf server ∧ id = id') := by
      simp [fate, hresponse, eq_comm]
    rw [hsame.isWaitingIn, hfate, other _ (by rintro _ ⟨⟩)]
    exact Client.isWaitingIn_remove s.client (s.client.tableOf server) t id' id
  | @closed server hsame hcalls =>
    have hfate : fate t id (.reader server (s.client.tableOf server) .close) = none ↔
        t ≠ s.client.tableOf server := by
      simp [fate, eq_comm]
    rw [hsame.isWaitingIn, hfate, other _ (by rintro _ ⟨⟩)]
    exact Client.isWaitingIn_close s.client (s.client.tableOf server) t id

/-- After a step a request has the reply that it had, or the one that was its fate. -/
theorem replyTo?_step (H : Ledger s) (h : Step s a s') (id : Int) (reply : Reply) :
    s'.client.replyTo? id = some reply ↔ s.client.replyTo? id = some reply ∨
      ∃ t, s.client.isWaitingIn t id = true ∧ fate t id a = some (.replied reply) := by
  have keep (hreply : s'.client.replyTo? id = s.client.replyTo? id)
      (hfate : ∀ t, s.client.isWaitingIn t id = true → fate t id a ≠ some (.replied reply)) :
      s'.client.replyTo? id = some reply ↔ s.client.replyTo? id = some reply ∨
        ∃ t, s.client.isWaitingIn t id = true ∧ fate t id a = some (.replied reply) := by
    rw [hreply]
    exact ⟨.inl, fun hr => hr.elim (fun hr => hr) fun ⟨t, hw, hf⟩ => absurd hf (hfate t hw)⟩
  cases h.effect with
  | quiet hsame hcalls hfate => exact keep (hsame.replyTo? id) fun t hw => by simp [hfate t id hw]
  | begun hsame hcalls hfate => exact keep (hsame.replyTo? id) fun t hw => by simp [hfate t id]
  | moved hsame hcalled hcalls hlive hmoves hearly hregisters hwithdraws =>
    exact keep (hsame.replyTo? id) fun t hw => by simp [fate_call_of_ne hwithdraws]
  | registered hcalled hstage hregister hsame hcalls =>
    refine keep ((hsame.replyTo? id).trans ?_) fun t hw => by simp [fate]
    rw [(Client.register_eq_ok hregister).2]; rfl
  | withdrawn hcalled hstage hsame hcalls =>
    exact keep (hsame.replyTo? id) fun t hw => by simp [fate]
  | tabled hfree hsame hcalls hstreams =>
    exact keep (hsame.replyTo? id) fun t hw => by simp [fate]
  | attached hsame hcalls howner => exact keep (hsame.replyTo? id) fun t hw => by simp [fate]
  | closed hsame hcalls => exact keep (hsame.replyTo? id) fun t hw => by simp [fate]
  | @resolved server message id' reply' hresponse hwaiting hsame hcalls =>
    have hfate : ∀ t, fate t id (.reader server (s.client.tableOf server) (.read message)) =
        some (.replied reply) ↔ t = s.client.tableOf server ∧ id = id' ∧ reply = reply' := by
      intro t
      simp [fate, hresponse, eq_comm, and_assoc]
    have hreply : s'.client.replyTo? id =
        if id = id' then some reply' else s.client.replyTo? id := by
      rw [hsame.replyTo?, Client.replyTo?, Client.resolve, List.lookup_cons, Client.replyTo?]
      by_cases hid : id = id'
      · simp [hid]
      · rw [beq_eq_false_iff_ne.mpr hid, if_neg hid]
    simp only [hfate, hreply]
    by_cases hid : id = id'
    · subst hid
      simp [H.unanswered hwaiting, hwaiting, eq_comm]
    · simp [hid]

/-! ## Every run -/

theorem registered_step (h : Step s a s') (hid : s.Registered id) : s'.Registered id := by
  obtain ⟨k, call, hk, rfl, hstage⟩ := hid
  rcases h.call_cases hk with hk' | ⟨action, c, stage, parcels, rfl, hstep, hk'⟩
  · exact ⟨k, call, hk', rfl, hstage⟩
  · refine ⟨k, _, hk', rfl, ?_⟩
    cases hstep <;> nofun

/-- The request that a step registers is registered after it. -/
theorem registers_step (h : Step s (.call k .register) s') : s'.Registered (number k) := by
  cases h with
  | @call _ call action c stage parcels hcalled hstep =>
    cases hstep with
    | register hstage hok =>
      refine ⟨k, _, List.getElem?_set_self (List.getElem?_eq_some_iff.mp hcalled).1, rfl, nofun⟩

/-- The step by which a request is registered finds it unregistered. -/
theorem not_registered_of_registers (h : Step s (.call k .register) s') :
    ¬ s.Registered (number k) := by
  cases h with
  | call hcalled hstep =>
    cases hstep with
    | register hstage hok => exact not_registered hcalled hstage

theorem table_step (h : Step s a s') (ha : a ≠ .owner .beginStart) :
    s'.client.table = s.client.table := by
  cases h.effect with
  | tabled => exact absurd rfl ha
  | registered hcalled hstage hregister hsame hcalls =>
    rw [hsame.table, (Client.register_eq_ok hregister).2]; rfl
  | quiet hsame | begun hsame | moved hsame | withdrawn _ _ hsame | attached hsame
  | resolved _ _ hsame | closed hsame => exact hsame.table

/-- A step makes no request, or it makes one, which takes the next number. -/
theorem calls_step (h : Step s a s') :
    (s'.calls.length = s.calls.length ∧ s'.client.nextId = s.client.nextId) ∨
      ∃ call, s'.calls = s.calls ++ [call] ∧ call.id = s.client.nextId ∧ call.stage = .issued ∧
        s'.client.nextId = s.client.nextId + 1 := by
  cases h.effect with
  | begun hsame hcalls => exact .inr ⟨_, hcalls, rfl, rfl, hsame.nextId⟩
  | quiet hsame hcalls | tabled _ hsame hcalls | attached hsame hcalls
  | resolved _ _ hsame hcalls | closed hsame hcalls =>
    exact .inl ⟨by rw [hcalls], hsame.nextId⟩
  | moved hsame _ hcalls | withdrawn _ _ hsame hcalls =>
    exact .inl ⟨by rw [hcalls, List.length_set], hsame.nextId⟩
  | registered hcalled hstage hregister hsame hcalls =>
    refine .inl ⟨by rw [hcalls, List.length_set], hsame.nextId.trans ?_⟩
    rw [(Client.register_eq_ok hregister).2]; rfl

theorem live_of_callStep {c c' : Client} {action : CallAction} {stage : Stage}
    {parcels : List Parcel} (h : CallStep k c call action c' stage parcels) :
    call.stage.live = true := by
  cases h with
  | drop hlive => exact hlive
  | register hstage | refuse hstage | write hstage | writeFails _ hstage | withdraw hstage
  | receive hstage => rw [hstage]; rfl

/-- A request after a step was there before it and is the same or took a step of its own, or the
step made it. -/
theorem call_back (h : Step s a s') (hk : s'.calls[k]? = some call) :
    (∃ before, s.calls[k]? = some before ∧ (call = before ∨
        ∃ action c stage parcels, a = .call k action ∧
          CallStep k s.client before action c stage parcels ∧
          call = { before with stage := stage })) ∨
      (k = s.calls.length ∧ call.id = s.client.nextId ∧ call.stage = .issued) := by
  by_cases hlt : k < s.calls.length
  · refine .inl ⟨s.calls[k], List.getElem?_eq_getElem hlt, ?_⟩
    rcases h.call_cases (List.getElem?_eq_getElem hlt) with
      hk' | ⟨action, c, stage, parcels, ha, hstep, hk'⟩
    · cases hk'.symm.trans hk
      exact .inl rfl
    · cases hk'.symm.trans hk
      exact .inr ⟨action, c, stage, parcels, ha, hstep, rfl⟩
  · have hk' := (List.getElem?_eq_some_iff.mp hk).1
    rcases calls_step h with ⟨hlength, -⟩ | ⟨call', hcalls, hid, hstage, -⟩
    · omega
    · rw [hcalls, List.length_append, List.length_singleton] at hk'
      obtain rfl : k = s.calls.length := by omega
      rw [hcalls, List.getElem?_concat_length] at hk
      cases hk
      exact .inr ⟨rfl, hid, hstage⟩

theorem bound_step (H : Ledger s) (h : Step s a s') :
    s'.client.table < s'.client.tables.length := by
  have hbound := H.bound
  cases h.effect with
  | tabled _ hsame =>
    rw [hsame.table, hsame.tables]
    simp [Client.beginStart]
  | registered _ _ hregister hsame =>
    rw [hsame.table, hsame.tables, (Client.register_eq_ok hregister).2]
    simpa [Client.updateTable] using hbound
  | quiet hsame | begun hsame | moved hsame | attached hsame =>
    rw [hsame.table, hsame.tables]; exact hbound
  | withdrawn _ _ hsame | resolved _ _ hsame | closed hsame =>
    rw [hsame.table, hsame.tables]
    simpa [Client.withdraw, Client.resolve, Client.closeTable, Client.updateTable] using hbound

/-- A new table comes only when no request is under way. -/
theorem table_step_of_live (h : Step s a s') (hk : s'.calls[k]? = some call)
    (hlive : call.stage.live = true) : s'.client.table = s.client.table := by
  refine table_step h ?_
  rintro rfl
  cases h with
  | owner hstep =>
    cases hstep with
    | beginStart hfree =>
      rw [hfree.2 call (List.mem_of_getElem? hk)] at hlive
      cases hlive

theorem present_step (H : Ledger s) (h : Step s a s')
    (hw : s'.client.isWaitingIn t (number k) = true) (hk : s'.calls[k]? = some call)
    (hlive : call.stage.live = true) : t = s'.client.table := by
  rw [table_step_of_live h hk hlive]
  rcases (H.isWaitingIn_step h t _).mp hw with ⟨_, -, -, ht⟩ | ⟨hw, -⟩
  · exact ht
  · rcases call_back h hk with ⟨before, hbefore, rfl | ⟨_, _, _, _, -, hstep, -⟩⟩ | ⟨hlength, -⟩
    · exact H.present hw hbefore hlive
    · exact H.present hw hbefore (live_of_callStep hstep)
    · obtain ⟨k', call', hk', hid, -⟩ := H.waiting hw
      have hlt := (List.getElem?_eq_some_iff.mp hk').1
      rw [← number_inj.mp hid, hlength] at hlt
      exact absurd hlt (Nat.lt_irrefl _)

theorem unanswered_step (H : Ledger s) (h : Step s a s')
    (hw : s'.client.isWaitingIn t id = true) : s'.client.replyTo? id = none := by
  refine Option.eq_none_iff_forall_ne_some.mpr fun reply hr => ?_
  rcases (H.isWaitingIn_step h t id).mp hw with ⟨k, rfl, rfl, -⟩ | ⟨hw, hfate⟩
  · rcases (H.replyTo?_step h _ reply).mp hr with hr | ⟨_, hw', -⟩
    · exact not_registered_of_registers h (H.replied hr)
    · exact not_registered_of_registers h (H.waiting hw')
  · rcases (H.replyTo?_step h _ reply).mp hr with hr | ⟨t', hw', hfate'⟩
    · rw [H.unanswered hw] at hr; cases hr
    · rw [H.alone hw' hw, hfate] at hfate'; cases hfate'

theorem step (H : Ledger s) (h : Step s a s') : Ledger s' := by
  refine ⟨?_, ?_, H.bound_step h, ?_, H.present_step h, ?_, H.unanswered_step h, ?_⟩
  · rcases calls_step h with ⟨hlength, hnext⟩ | ⟨call, hcalls, -, -, hnext⟩
    · rw [hnext, hlength, H.nextId]
    · rw [hnext, hcalls, H.nextId, List.length_append]; rfl
  · intro k call hk
    rcases call_back h hk with ⟨before, hbefore, rfl | ⟨_, _, _, _, -, -, rfl⟩⟩ | ⟨rfl, hid, -⟩
    · exact H.ids hbefore
    · have hid : before.id = number k := H.ids hbefore
      exact hid
    · rw [hid, H.nextId, number]
  · intro t id hw
    rcases (H.isWaitingIn_step h t id).mp hw with ⟨k, rfl, rfl, -⟩ | ⟨hw, -⟩
    · exact registers_step h
    · exact registered_step h (H.waiting hw)
  · intro t t' id hw hw'
    rcases (H.isWaitingIn_step h t id).mp hw with ⟨k, rfl, rfl, ht⟩ | ⟨hw, -⟩
    · rcases (H.isWaitingIn_step h t' _).mp hw' with ⟨_, _, _, ht'⟩ | ⟨hw', -⟩
      · rw [ht, ht']
      · exact absurd (H.waiting hw') (not_registered_of_registers h)
    · rcases (H.isWaitingIn_step h t' _).mp hw' with ⟨_, rfl, rfl, -⟩ | ⟨hw', -⟩
      · exact absurd (H.waiting hw) (not_registered_of_registers h)
      · exact H.alone hw hw'
  · intro id reply hr
    rcases (H.replyTo?_step h id reply).mp hr with hr | ⟨t, hw, -⟩
    · exact registered_step h (H.replied hr)
    · exact registered_step h (H.waiting hw)

end Ledger

theorem not_isWaitingIn_new (config : Server.Config) (t : Nat) (id : Int) :
    (Client.new config).isWaitingIn t id = false := by
  cases t <;> rfl

theorem Ledger.initial (config : Server.Config) : Ledger (.initial config) where
  nextId := rfl
  ids hk := by cases hk
  bound := Nat.zero_lt_one
  waiting hw := absurd hw (by simp [Traffic.initial, not_isWaitingIn_new])
  present hw := absurd hw (by simp [Traffic.initial, not_isWaitingIn_new])
  alone hw := absurd hw (by simp [Traffic.initial, not_isWaitingIn_new])
  unanswered _ := rfl
  replied hr := by cases hr

theorem Run.ledger (h : Run s actions s') (H : Ledger s) : Ledger s' := by
  induction h with
  | done => exact H
  | step hfirst _ ih => exact ih (H.step hfirst)

theorem Run.registered (h : Run s actions s') (hid : s.Registered id) : s'.Registered id := by
  induction h with
  | done => exact hid
  | step hfirst _ ih => exact ih (Ledger.registered_step hfirst hid)

end AnalyzerClient.Traffic
