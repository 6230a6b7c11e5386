import AnalyzerClient.Proofs.Client.Traffic
import Mathlib.Data.List.Basic

/-!
# What a step does to the tables

Of all the steps only a few concern the numbers of requests, their tables and their replies.
`Step.effect` says once what each of them does to these; everything about runs is derived from it.
`fate` is what an action means for a request that stands in a table.
-/

namespace AnalyzerClient

open AnalyzerClient.Protocol (Message)

namespace Client

variable {c c' : Client} {t t' : Nat} {id id' : Int} {f : PendingTable → PendingTable}

/-- Two clients with the same numbers, tables, readers and replies. -/
structure Same (c c' : Client) : Prop where
  nextId : c'.nextId = c.nextId
  tables : c'.tables = c.tables
  table : c'.table = c.table
  readers : c'.readers = c.readers
  replies : c'.replies = c.replies

namespace Same

theorem refl (c : Client) : Same c c := ⟨rfl, rfl, rfl, rfl, rfl⟩

theorem isWaitingIn (H : Same c c') (t : Nat) (id : Int) :
    c'.isWaitingIn t id = c.isWaitingIn t id := by
  rw [Client.isWaitingIn, H.tables, Client.isWaitingIn]

theorem replyTo? (H : Same c c') (id : Int) : c'.replyTo? id = c.replyTo? id := by
  rw [Client.replyTo?, H.replies, Client.replyTo?]

theorem current (H : Same c c') : c'.current = c.current := by
  rw [Client.current, H.tables, H.table, Client.current]

theorem tableOf (H : Same c c') (server : Nat) : c'.tableOf server = c.tableOf server := by
  rw [Client.tableOf, H.readers, Client.tableOf]

theorem trans {c'' : Client} (H : Same c c') (H' : Same c' c'') : Same c c'' :=
  ⟨H'.nextId.trans H.nextId, H'.tables.trans H.tables, H'.table.trans H.table,
    H'.readers.trans H.readers, H'.replies.trans H.replies⟩

theorem resolve (H : Same c c') (t : Nat) (id : Int) (reply : Reply) :
    Same (c.resolve t id reply) (c'.resolve t id reply) :=
  ⟨H.nextId, congrArg (·.modify t (·.remove id)) H.tables, H.table, H.readers,
    congrArg ((id, reply) :: ·) H.replies⟩

end Same

/-! ## Single tables -/

/-- The number and the reply of a message that is a response. -/
def responseOf? (message : Json) : Option (Int × Reply) :=
  match Message.ofJson message with
  | .ok (.response id result error) => some (id, .ofResponse result error)
  | _ => none

theorem tables_updateTable (c : Client) (t : Nat) (f : PendingTable → PendingTable) :
    (c.updateTable t f).tables = c.tables.modify t f := rfl

theorem isWaitingIn_updateTable
    (hf : t < c.tables.length ∨ (f .empty).waiting.contains id = false) :
    (c.updateTable t f).isWaitingIn t' id =
      if t' = t then (f (c.tables.getD t .empty)).waiting.contains id else c.isWaitingIn t' id := by
  rw [isWaitingIn, tables_updateTable, List.getD_eq_getElem?_getD, List.getElem?_modify]
  by_cases ht : t' = t
  · subst ht
    rw [if_pos rfl, List.getD_eq_getElem?_getD]
    rcases hf with hlt | hf
    · simp [List.getElem?_eq_getElem hlt]
    · cases c.tables[t']? with
      | none => simpa [PendingTable.empty] using hf
      | some table => simp
  · rw [if_neg ht, isWaitingIn, List.getD_eq_getElem?_getD]
    simp [Ne.symm ht]

theorem isWaitingIn_remove (c : Client) (t t' : Nat) (id id' : Int) :
    (c.updateTable t (·.remove id)).isWaitingIn t' id' = true ↔
      c.isWaitingIn t' id' = true ∧ ¬ (t' = t ∧ id' = id) := by
  rw [isWaitingIn_updateTable (.inr rfl)]
  split
  · next ht =>
    subst ht
    simp only [PendingTable.remove, isWaitingIn, List.contains_iff_mem, List.mem_filter, bne_iff_ne,
      ne_eq, true_and]
  · next ht => simp only [ht, false_and, not_false_eq_true, and_true]

theorem isWaitingIn_close (c : Client) (t t' : Nat) (id : Int) :
    (c.updateTable t (·.close)).isWaitingIn t' id = true ↔ c.isWaitingIn t' id = true ∧ t' ≠ t := by
  rw [isWaitingIn_updateTable (.inr rfl)]
  split
  · next ht => simp [ht, PendingTable.close]
  · next ht => simp [ht]

/-- A new table changes nothing in the others. -/
theorem isWaitingIn_beginStart (c : Client) (t : Nat) (id : Int) :
    c.beginStart.isWaitingIn t id = c.isWaitingIn t id := by
  have hgetD : (c.tables ++ [PendingTable.empty]).getD t .empty = c.tables.getD t .empty := by
    rw [List.getD_eq_getElem?_getD, List.getD_eq_getElem?_getD, List.getElem?_append]
    split
    · rfl
    · next ht =>
      rw [List.getElem?_eq_none (Nat.le_of_not_lt ht)]
      cases t - c.tables.length <;> rfl
  rw [isWaitingIn, beginStart, hgetD, isWaitingIn]

/-- What registering a request does. -/
theorem register_eq_ok (h : c.register id = .ok c') :
    c.current.closed = false ∧
      c' = c.updateTable c.table fun _ => ⟨false, id :: c.current.waiting.erase id⟩ := by
  rw [register, PendingTable.register] at h
  cases hc : c.current.closed with
  | true => rw [hc] at h; cases h
  | false =>
    rw [hc] at h
    simp only [Bool.false_eq_true, if_false, Except.map, Except.ok.injEq] at h
    exact ⟨rfl, h.symm⟩

theorem register_eq_error {e : Protocol.Error} (h : c.register id = .error e) :
    c.current.closed = true ∧ e = .notRunning := by
  rw [register, PendingTable.register] at h
  cases hc : c.current.closed with
  | true => rw [hc] at h; cases h; exact ⟨rfl, rfl⟩
  | false => rw [hc] at h; cases h

theorem isWaitingIn_register (h : c.register id = .ok c') (ht : c.table < c.tables.length) :
    c'.isWaitingIn t' id' = true ↔ (t' = c.table ∧ id' = id) ∨ c.isWaitingIn t' id' = true := by
  rw [(register_eq_ok h).2, isWaitingIn_updateTable (.inl ht)]
  split
  · next htable =>
    subst htable
    have hcurrent : c.isWaitingIn c.table id' = c.current.waiting.contains id' := rfl
    rw [hcurrent, List.contains_iff_mem, List.contains_iff_mem, List.mem_cons]
    by_cases hid : id' = id
    · simp [hid]
    · simp [hid, List.mem_erase_of_ne hid]
  · next htable => simp [htable]

/-! ## Messages -/

theorem same_note (c : Client) (line : String) : Same c (c.note line) := ⟨rfl, rfl, rfl, rfl, rfl⟩

theorem same_trace (c : Client) (message : Json) : Same c (c.trace message) := by
  unfold trace
  split <;> exact ⟨rfl, rfl, rfl, rfl, rfl⟩

/-- A message resolves the request that it responds to, if this stands in the table of the reader;
no other message does anything to the tables. -/
theorem handle_effect {server : Nat} {message : Json} {answer : Option Answer}
    (h : c.handle server message = (c', answer)) :
    (∃ id reply, responseOf? message = some (id, reply) ∧
        c.isWaitingIn (c.tableOf server) id = true ∧
        Same (c.resolve (c.tableOf server) id reply) c') ∨
      ((∀ id reply, responseOf? message = some (id, reply) →
        c.isWaitingIn (c.tableOf server) id = false) ∧ Same c c') := by
  have htrace := same_trace c message
  rw [handle] at h
  generalize c.trace message = c₁ at h htrace
  unfold responseOf?
  split at h
  · next hv =>
    cases h
    simp only [hv]
    exact .inr ⟨fun _ _ hr => (by cases hr), htrace.trans (same_note ..)⟩
  · next id result error hv =>
    rw [handleResponse, htrace.tableOf, htrace.isWaitingIn] at h
    simp only [hv, Option.some.injEq, Prod.mk.injEq]
    split at h
    · next hw =>
      cases h
      exact .inl ⟨id, _, ⟨rfl, rfl⟩, hw, htrace.resolve ..⟩
    · next hw =>
      cases h
      refine .inr ⟨?_, htrace.trans (same_note ..)⟩
      rintro _ _ ⟨rfl, rfl⟩
      simpa using hw
  · next method params hv =>
    simp only [hv]
    split at h <;> cases h
    · exact .inr ⟨fun _ _ hr => (by cases hr), htrace.trans ⟨rfl, rfl, rfl, rfl, rfl⟩⟩
    · exact .inr ⟨fun _ _ hr => (by cases hr), htrace⟩
  · next id method params hv =>
    cases h
    simp only [hv]
    exact .inr ⟨fun _ _ hr => (by cases hr), htrace⟩

end Client

namespace Traffic

open Client (Same responseOf?)

/-! ## Fates -/

/-- The number of a request; the first one is 1. -/
def number (k : Nat) : Int := k + 1

theorem number_inj {k k' : Nat} : number k = number k' ↔ k = k' := by
  unfold number; omega

/-- What becomes of a request that stands in a table. -/
inductive Fate where
  | replied (reply : Reply)
  | withdrawn
  | closed

/-- What an action means for the request with number `id` that stands in table `t`. -/
def fate (t : Nat) (id : Int) : Action → Option Fate
  | .reader _ t' (.read message) =>
    match responseOf? message with
    | some (id', reply) => if t' = t ∧ id' = id then some (.replied reply) else none
    | none => none
  | .reader _ t' .close => if t' = t then some .closed else none
  | .call k .withdraw => if id = number k then some .withdrawn else none
  | _ => none

/-! ## Effects -/

/-- What the steps do to the numbers, the tables, the replies and the requests. -/
inductive Effect (s s' : Traffic) : Action → Prop
  | quiet {a : Action} (same : Same s.client s'.client) (calls : s'.calls = s.calls)
      (fate : ∀ t id, s.client.isWaitingIn t id = true → fate t id a = none)
      (begins : a ≠ .owner .beginStart) (registers : ∀ k, a ≠ .call k .register) : Effect s s' a
  | begun {a : Action} {server : Nat} {method : String} {params : Json}
      (same : Same { s.client with nextId := s.client.nextId + 1 } s'.client)
      (calls : s'.calls = s.calls ++ [⟨s.client.nextId, method, params, server, .issued⟩])
      (fate : ∀ t id, fate t id a = none)
      (begins : a ≠ .owner .beginStart) (registers : ∀ k, a ≠ .call k .register) : Effect s s' a
  | moved {k : Nat} {action : CallAction} {call : Call} {stage : Stage}
      (same : Same s.client s'.client) (called : s.calls[k]? = some call)
      (calls : s'.calls = s.calls.set k { call with stage := stage })
      (live : call.stage.live = true) (moves : stage ≠ .issued)
      (early : call.stage = .issued → stage.live = false)
      (registers : action ≠ .register) (withdraws : action ≠ .withdraw) :
      Effect s s' (.call k action)
  | registered {k : Nat} {call : Call} {c : Client} (called : s.calls[k]? = some call)
      (stage : call.stage = .issued) (register : s.client.register call.id = .ok c)
      (same : Same c s'.client)
      (calls : s'.calls = s.calls.set k { call with stage := .registered }) :
      Effect s s' (.call k .register)
  | withdrawn {k : Nat} {call : Call} {cause : OsError} (called : s.calls[k]? = some call)
      (stage : call.stage = .unsent cause) (same : Same (s.client.withdraw call.id) s'.client)
      (calls : s'.calls = s.calls.set k { call with stage := .ended (.error (.transport cause)) }) :
      Effect s s' (.call k .withdraw)
  | tabled (free : s.Free) (same : Same s.client.beginStart s'.client) (calls : s'.calls = s.calls)
      (streams : s'.streams = s.streams) : Effect s s' (.owner .beginStart)
  | attached (same : Same s.client.attach s'.client) (calls : s'.calls = s.calls)
      (owner : s.owner = .tabled) : Effect s s' (.owner .attach)
  | resolved {server : Nat} {message : Json} {id : Int} {reply : Reply}
      (response : responseOf? message = some (id, reply))
      (waiting : s.client.isWaitingIn (s.client.tableOf server) id = true)
      (same : Same (s.client.resolve (s.client.tableOf server) id reply) s'.client)
      (calls : s'.calls = s.calls) :
      Effect s s' (.reader server (s.client.tableOf server) (.read message))
  | closed {server : Nat}
      (same : Same (s.client.closeTable server) s'.client) (calls : s'.calls = s.calls) :
      Effect s s' (.reader server (s.client.tableOf server) .close)

variable {s s' : Traffic}

theorem CallStep.effect {k : Nat} {call : Call} {action : CallAction} {c : Client} {stage : Stage}
    {parcels : List Parcel} (called : s.calls[k]? = some call)
    (h : CallStep k s.client call action c stage parcels) (written : List Parcel) :
    Effect s { s with
      client := c, calls := s.calls.set k { call with stage := stage }, parcels := written }
      (.call k action) := by
  cases h with
  | register hstage hok => exact .registered called hstage hok (Client.same_note ..) rfl
  | refuse hstage herror =>
    exact .moved (.refl _) called rfl (by rw [hstage]; rfl) nofun (fun _ => rfl) nofun nofun
  | write hstage =>
    exact .moved (.refl _) called rfl (by rw [hstage]; rfl) nofun
      (fun h => by rw [hstage] at h; cases h) nofun nofun
  | writeFails cause hstage =>
    exact .moved (.refl _) called rfl (by rw [hstage]; rfl) nofun
      (fun h => by rw [hstage] at h; cases h) nofun nofun
  | withdraw hstage => exact .withdrawn called hstage (.refl _) rfl
  | receive hstage houtcome =>
    exact .moved (.refl _) called rfl (by rw [hstage]; rfl) nofun (fun _ => rfl) nofun nofun
  | drop hlive => exact .moved (.refl _) called rfl hlive nofun (fun _ => rfl) nofun nofun

theorem ReaderStep.effect {server : Nat} {st st' : Stream} {action : ReaderAction} {c : Client}
    {parcels : List Parcel} (h : ReaderStep server s.client st action c st' parcels)
    (streams : List Stream) (written : List Parcel) :
    Effect s { s with client := c, streams := streams, parcels := written }
      (.reader server (s.client.tableOf server) action) := by
  cases h with
  | read hstage hreading hhandle =>
    rcases Client.handle_effect hhandle with ⟨id, reply, hr, hw, hsame⟩ | ⟨hr, hsame⟩
    · exact .resolved hr hw hsame rfl
    · refine .quiet hsame rfl (fun t id hw => ?_) nofun (fun _ => nofun)
      simp only [fate]
      split
      · next id' reply hr' =>
        refine if_neg fun ht => ?_
        have hne := hr id' reply hr'
        rw [ht.1, ht.2, hw] at hne
        cases hne
      · rfl
  | close hstage => exact .closed (.refl _) rfl
  | answer hstage => exact .quiet (.refl _) rfl (fun _ _ _ => rfl) nofun (fun _ => nofun)
  | answerFails e hstage =>
    exact .quiet (Client.same_note ..) rfl (fun _ _ _ => rfl) nofun (fun _ => nofun)
  | leave hstage hends => exact .quiet (.refl _) rfl (fun _ _ _ => rfl) nofun (fun _ => nofun)
  | breakDown hstage hreading =>
    exact .quiet (.refl _) rfl (fun _ _ _ => rfl) nofun (fun _ => nofun)
  | expect hstage hexpected =>
    exact .quiet (.refl _) rfl (fun _ _ _ => rfl) nofun (fun _ => nofun)
  | condemn hstage hunexpected =>
    exact .quiet (.refl _) rfl (fun _ _ _ => rfl) nofun (fun _ => nofun)
  | fail hstage | tell hstage =>
    exact .quiet ⟨rfl, rfl, rfl, rfl, rfl⟩ rfl (fun _ _ _ => rfl) nofun (fun _ => nofun)
  | vanish hdoomed hstage => exact .quiet (.refl _) rfl (fun _ _ _ => rfl) nofun (fun _ => nofun)

theorem OwnerStep.effect {action : OwnerAction} (h : OwnerStep s action s') :
    Effect s s' (.owner action) := by
  have quiet {action : OwnerAction} {s' : Traffic} (same : Same s.client s'.client)
      (calls : s'.calls = s.calls) (hne : action ≠ .beginStart) : Effect s s' (.owner action) :=
    .quiet same calls (fun _ _ _ => rfl) (fun h => hne (by cases h; rfl)) (fun _ => nofun)
  cases h with
  | beginStart hfree => exact .tabled hfree (.refl _) rfl rfl
  | attach howner => exact .attached (.refl _) rfl howner
  | introduce processId root howner htransport =>
    exact .begun (.refl _) rfl (fun _ _ => rfl) nofun (fun _ => nofun)
  | part howner htransport => exact .begun (.refl _) rfl (fun _ _ => rfl) nofun (fun _ => nofun)
  | @accept k call value info howner hcalled hended hdecode =>
    refine quiet ?_ rfl nofun
    cases info with
    | none => exact .refl _
    | some info => exact Client.same_note ..
  | mark howner hrunning =>
    refine quiet ?_ rfl nofun
    rw [Client.markRunning] at hrunning
    split at hrunning <;> cases hrunning
    exact ⟨rfl, rfl, rfl, rfl, rfl⟩
  | @hearGoodbye k call result howner hcalled hended =>
    refine quiet ?_ rfl nofun
    dsimp only
    split
    · exact Client.same_note ..
    · exact .refl _
  | spawnFails | tellStarted | beginStop | detach | halt | tellStopped | fail =>
    exact quiet ⟨rfl, rfl, rfl, rfl, rfl⟩ rfl nofun
  | acknowledge | markFails | skip | sayExit | exitFails | abandon =>
    exact quiet (.refl _) rfl nofun

theorem Step.effect {a : Action} (h : Step s a s') : Effect s s' a := by
  cases h with
  | begin method params howner htransport =>
    exact .begun (.refl _) rfl (fun _ _ => rfl) nofun (fun _ => nofun)
  | call hcalled hstep => exact hstep.effect hcalled _
  | reader hstream hstep => exact hstep.effect _ _
  | owner hstep => exact hstep.effect
  | turnAway | notify | notifyFails | arrive | hangUp =>
    exact .quiet (.refl _) rfl (fun _ _ _ => rfl) nofun (fun _ => nofun)

/-! ## Single requests -/

theorem getElem?_set_cases {i : Nat} {call : Call} (hi : s.calls[i]? = some call) (k : Nat)
    (call' : Call) :
    (s.calls.set k call')[i]? = some call ∨ (i = k ∧ (s.calls.set k call')[i]? = some call') := by
  by_cases hk : i = k
  · subst hk
    exact .inr ⟨rfl, by rw [List.getElem?_set_self (List.getElem?_eq_some_iff.mp hi).1]⟩
  · exact .inl (by rw [List.getElem?_set_ne (Ne.symm hk), hi])

theorem getElem?_append_of_some {k : Nat} {call call' : Call} (hk : s.calls[k]? = some call) :
    (s.calls ++ [call'])[k]? = some call := by
  rw [List.getElem?_append_left (List.getElem?_eq_some_iff.mp hk).1, hk]

theorem OwnerStep.getElem?_calls {action : OwnerAction} (h : OwnerStep s action s') {k : Nat}
    {call : Call} (hk : s.calls[k]? = some call) : s'.calls[k]? = some call := by
  cases h with
  | introduce | part => exact getElem?_append_of_some hk
  | _ => exact hk

/-- A request changes only by its own actions. -/
theorem Step.call_cases {a : Action} (h : Step s a s') {k : Nat} {call : Call}
    (hk : s.calls[k]? = some call) :
    s'.calls[k]? = some call ∨ ∃ action c stage parcels, a = .call k action ∧
      CallStep k s.client call action c stage parcels ∧
      s'.calls[k]? = some { call with stage := stage } := by
  cases h with
  | begin method params howner htransport => exact .inl (getElem?_append_of_some hk)
  | @call k' call' action c stage parcels hcalled hstep =>
    rcases getElem?_set_cases hk k' { call' with stage := stage } with
      hkeep | ⟨rfl, hset⟩
    · exact .inl hkeep
    · cases hcalled.symm.trans hk
      exact .inr ⟨action, c, stage, parcels, rfl, hstep, hset⟩
  | owner hstep => exact .inl (hstep.getElem?_calls hk)
  | turnAway | notify | notifyFails | arrive | hangUp | reader => exact .inl hk

end Traffic

end AnalyzerClient
