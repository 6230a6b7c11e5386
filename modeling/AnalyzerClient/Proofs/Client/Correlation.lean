import AnalyzerClient.Proofs.Client.Ledger
import AnalyzerClient.Proofs.Protocol.Frame
import Mathlib.Algebra.Group.Int.Defs
import Mathlib.Algebra.Group.Nat.Defs
import Mathlib.Data.List.Nodup

/-!
# Requests and responses

The first response with the number of a request that the reader of its table handles after its
registration completes the request, unless its withdrawal or the closing of the table comes first,
and nothing else completes it (`Run.fate_of_waiting`). `Run.correlation` says this of all requests
of a client over its whole life.
-/

namespace AnalyzerClient

open AnalyzerClient.Protocol (Error)

/-- What a request gives when it got a reply. -/
def Reply.toResult : Reply → Except Error Json
  | .result value => .ok value
  | .error code message => .error (.server code message)

theorem ExchangeM.outcome_eq_some {c : Client} {method : String} {id : Int}
    {result : Except Error Json} (h : outcome c method id = some result) :
    (∃ reply, c.replyTo? id = some reply ∧ result = reply.toResult) ∨
      (c.replyTo? id = none ∧ c.isWaiting id = false ∧ result = .error (.cancelled method)) := by
  unfold outcome at h
  split at h
  · next value hr => cases h; exact .inl ⟨_, hr, rfl⟩
  · next code message hr => cases h; exact .inl ⟨_, hr, rfl⟩
  · next hr =>
    split at h
    · cases h
    · next hw => cases h; exact .inr ⟨hr, by simpa using hw, rfl⟩

theorem Client.isWaiting_of_isWaitingIn {c : Client} {t : Nat} {id : Int}
    (h : c.isWaitingIn t id = true) : c.isWaiting id = true := by
  rw [isWaitingIn, List.getD_eq_getElem?_getD] at h
  cases ht : c.tables[t]? with
  | none => rw [ht] at h; cases h
  | some table =>
    rw [ht] at h
    exact List.any_eq_true.mpr ⟨table, List.mem_of_getElem? ht, h⟩

namespace Traffic

open Client (Same responseOf?)

variable {config : Server.Config} {s s' : Traffic} {a : Action} {actions : List Action} {k t : Nat}
  {id : Int} {call : Call}

/-! ## The fate of a request -/

/-- A request that stands in no table any more keeps what it got. -/
theorem Run.keeps_reply (h : Run s actions s') (H : Ledger s) (hid : s.Registered id)
    (hout : ∀ t, s.client.isWaitingIn t id = false) :
    (∀ t, s'.client.isWaitingIn t id = false) ∧ s'.client.replyTo? id = s.client.replyTo? id := by
  induction h with
  | done => exact ⟨hout, rfl⟩
  | @step s s₁ s' a actions hfirst _ ih =>
    have hout₁ : ∀ t, s₁.client.isWaitingIn t id = false := by
      refine fun t => Bool.eq_false_iff.mpr fun hw => ?_
      rcases (H.isWaitingIn_step hfirst t id).mp hw with ⟨k, rfl, rfl, -⟩ | ⟨hw, -⟩
      · exact Ledger.not_registered_of_registers hfirst hid
      · rw [hout] at hw; cases hw
    have hreply : s₁.client.replyTo? id = s.client.replyTo? id := by
      refine Option.ext fun reply => (H.replyTo?_step hfirst id reply).trans (or_iff_left ?_)
      rintro ⟨t, hw, -⟩
      rw [hout] at hw; cases hw
    rw [← hreply]
    exact ih (H.step hfirst) (Ledger.registered_step hfirst hid) hout₁

/-- The first action that means something for a request in a table decides what becomes of it. -/
theorem Run.fate_of_waiting (h : Run s actions s') (H : Ledger s)
    (hw : s.client.isWaitingIn t id = true) :
    (∀ reply, s'.client.replyTo? id = some reply ↔
        actions.findSome? (fate t id) = some (.replied reply)) ∧
      ∀ t', s'.client.isWaitingIn t' id = true ↔ t' = t ∧ actions.findSome? (fate t id) = none := by
  induction h with
  | done s =>
    refine ⟨fun reply => ?_, fun t' => ⟨fun hw' => ⟨H.alone hw' hw, rfl⟩, ?_⟩⟩
    · simp [H.unanswered hw]
    · rintro ⟨rfl, -⟩; exact hw
  | @step s s₁ s' a actions hfirst hrest ih =>
    have H₁ := H.step hfirst
    rw [List.findSome?_cons]
    cases hfate : fate t id a with
    | none => exact ih H₁ ((H.isWaitingIn_step hfirst t id).mpr (.inr ⟨hw, hfate⟩))
    | some f =>
      have hid := H.waiting hw
      have hout : ∀ t', s₁.client.isWaitingIn t' id = false := by
        refine fun t' => Bool.eq_false_iff.mpr fun hw' => ?_
        rcases (H.isWaitingIn_step hfirst t' id).mp hw' with ⟨k, rfl, rfl, -⟩ | ⟨hw', hfate'⟩
        · exact Ledger.not_registered_of_registers hfirst hid
        · rw [H.alone hw' hw, hfate] at hfate'; cases hfate'
      obtain ⟨hout', hreply'⟩ := hrest.keeps_reply H₁ (Ledger.registered_step hfirst hid) hout
      refine ⟨fun reply => ?_, fun t' => by simp [hout']⟩
      rw [hreply', H.replyTo?_step hfirst, H.unanswered hw]
      refine ⟨?_, fun hf => .inr ⟨t, hw, hfate.trans hf⟩⟩
      rintro (hr | ⟨t', hw', hf⟩)
      · cases hr
      · rw [H.alone hw' hw, hfate] at hf; exact hf

/-- What becomes of a request after its registration. -/
theorem Run.fate_of_registers {s₁ : Traffic} (hregister : Step s (.call k .register) s₁)
    (h : Run s₁ actions s') (H : Ledger s) :
    (∀ reply, s'.client.replyTo? (number k) = some reply ↔
        actions.findSome? (fate s.client.table (number k)) = some (.replied reply)) ∧
      ∀ t, s'.client.isWaitingIn t (number k) = true ↔
        t = s.client.table ∧ actions.findSome? (fate s.client.table (number k)) = none :=
  h.fate_of_waiting (H.step hregister)
    ((H.isWaitingIn_step hregister _ _).mpr (.inl ⟨k, rfl, rfl, rfl⟩))

/-- Only requests that were registered get replies. -/
theorem Run.registers_of_reply (h : Run s actions s') (H : Ledger s) {reply : Reply}
    (hr : s'.client.replyTo? id = some reply) :
    s.client.replyTo? id = some reply ∨ (∃ t, s.client.isWaitingIn t id = true) ∨
      ∃ k, id = number k ∧ .call k .register ∈ actions := by
  induction h with
  | done => exact .inl hr
  | @step s s₁ s' a actions hfirst hrest ih =>
    rcases ih (H.step hfirst) hr with hr | ⟨t, hw⟩ | ⟨k, rfl, hk⟩
    · rcases (H.replyTo?_step hfirst id reply).mp hr with hr | ⟨t, hw, -⟩
      · exact .inl hr
      · exact .inr (.inl ⟨t, hw⟩)
    · rcases (H.isWaitingIn_step hfirst t id).mp hw with ⟨k, rfl, rfl, -⟩ | ⟨hw, -⟩
      · exact .inr (.inr ⟨k, rfl, List.mem_cons_self⟩)
      · exact .inr (.inl ⟨t, hw⟩)
    · exact .inr (.inr ⟨k, rfl, List.mem_cons_of_mem _ hk⟩)

/-! ## Results and messages -/

/-- A request got no reply, and will get none. -/
def Unanswered (s : Traffic) (id : Int) : Prop :=
  s.client.replyTo? id = none ∧ ∀ t, s.client.isWaitingIn t id = false

theorem Unanswered.step (hs : s.Unanswered id) (H : Ledger s) (hid : s.Registered id)
    (h : Step s a s') : s'.Unanswered id := by
  obtain ⟨hout, hreply⟩ := (Run.step h (.done s')).keeps_reply H hid hs.2
  exact ⟨hreply.trans hs.1, hout⟩

/-- A request that is turned away was never registered. -/
theorem Ledger.unanswered_of_refuse (H : Ledger s) (hk : s.calls[k]? = some call)
    (hstage : call.stage = .issued) (h : Step s (.call k .refuse) s') :
    s'.Unanswered (number k) := by
  have hnew := not_registered hk hstage
  refine ⟨Option.eq_none_iff_forall_ne_some.mpr fun reply hr => ?_,
    fun t => Bool.eq_false_iff.mpr fun hw => ?_⟩
  · rcases (H.replyTo?_step h _ reply).mp hr with hr | ⟨t, hw, -⟩
    · exact hnew (H.replied hr)
    · exact hnew (H.waiting hw)
  · rcases (H.isWaitingIn_step h t _).mp hw with ⟨_, he, -⟩ | ⟨hw, -⟩
    · cases he
    · exact hnew (H.waiting hw)

/-- Every request that ended got its own reply, or it could not be written, or it failed in one of
the ways in which a request fails that gets no reply. -/
def Settled (s : Traffic) : Prop :=
  ∀ (k : Nat) (call : Call) (result : Except Error Json), s.calls[k]? = some call →
    call.stage = .ended result →
    (∃ reply, s.client.replyTo? (number k) = some reply ∧ result = reply.toResult) ∨
      (∃ cause, result = .error (.transport cause)) ∨
      ((result = .error .notRunning ∨ result = .error (.cancelled call.method)) ∧
        s.Unanswered (number k))

theorem Settled.step (hs : Settled s) (H : Ledger s) (h : Step s a s') : Settled s' := by
  intro k call result hk hended
  have hkeep {reply : Reply} (hr : s.client.replyTo? (number k) = some reply) :
      s'.client.replyTo? (number k) = some reply := (H.replyTo?_step h _ reply).mpr (.inl hr)
  rcases Ledger.call_back h hk with
    ⟨before, hbefore, rfl | ⟨action, c, stage, _, rfl, hstep, rfl⟩⟩ | ⟨-, -, hissued⟩
  · have hid : s.Registered (number k) := ⟨k, call, hbefore, rfl, by rw [hended]; nofun⟩
    rcases hs k call result hbefore hended with ⟨reply, hr, he⟩ | htransport | ⟨he, hunanswered⟩
    · exact .inl ⟨reply, hkeep hr, he⟩
    · exact .inr (.inl htransport)
    · exact .inr (.inr ⟨he, hunanswered.step H hid h⟩)
  · cases hstep with
    | refuse hstage herror =>
      cases hended
      refine .inr (.inr ⟨.inl ?_, H.unanswered_of_refuse hbefore hstage h⟩)
      rw [(Client.register_eq_error herror).2]
    | withdraw hstage => cases hended; exact .inr (.inl ⟨_, rfl⟩)
    | receive hstage houtcome =>
      cases hended
      rcases ExchangeM.outcome_eq_some houtcome with ⟨reply, hr, he⟩ | ⟨hnone, hnot, he⟩
      · rw [H.ids hbefore] at hr
        exact .inl ⟨reply, hkeep hr, he⟩
      · have hid : s.Registered (number k) := ⟨k, before, hbefore, rfl, by rw [hstage]; nofun⟩
        rw [H.ids hbefore] at hnone hnot
        refine .inr (.inr ⟨.inr he, Unanswered.step ⟨hnone, fun t => ?_⟩ H hid h⟩)
        refine Bool.eq_false_iff.mpr fun hw => ?_
        rw [Client.isWaiting_of_isWaitingIn hw] at hnot
        cases hnot
    | register | write | writeFails | drop => cases hended
  · rw [hissued] at hended; cases hended

theorem Run.settled (h : Run s actions s') (H : Ledger s) (hs : Settled s) : Settled s' := by
  induction h with
  | done => exact hs
  | step hfirst _ ih => exact ih (H.step hfirst) (hs.step H hfirst)

/-- A message that is read completes the one request that it responds to, if this stands in the
table of the reader; otherwise it changes no table and no reply. -/
theorem Step.read_cases {server : Nat} {message : Json}
    (h : Step s (.reader server t (.read message)) s') :
    s'.calls = s.calls ∧
      ((∃ id reply, responseOf? message = some (id, reply) ∧ s.client.isWaitingIn t id = true ∧
          s'.client.replies = (id, reply) :: s.client.replies ∧
          s'.client.tables = s.client.tables.modify t (·.remove id)) ∨
        ((∀ id reply, responseOf? message = some (id, reply) → s.client.isWaitingIn t id = false) ∧
          s'.client.replies = s.client.replies ∧ s'.client.tables = s.client.tables)) := by
  cases h with
  | reader hstream hstep =>
    cases hstep with
    | read hstage hreading hhandle =>
      refine ⟨rfl, ?_⟩
      rcases Client.handle_effect hhandle with ⟨id, reply, hr, hw, hsame⟩ | ⟨hr, hsame⟩
      · exact .inl ⟨id, reply, hr, hw, hsame.replies, hsame.tables⟩
      · exact .inr ⟨hr, hsame.replies, hsame.tables⟩

/-! ## All requests -/

theorem Ledger.ids_eq (H : Ledger s) :
    s.calls.map (·.id) = (List.range s.calls.length).map number := by
  refine List.ext_getElem (by simp) fun k hk _ => ?_
  rw [List.length_map] at hk
  simpa using H.ids (List.getElem?_eq_getElem hk)

theorem Ledger.nodup_ids (H : Ledger s) : (s.calls.map (·.id)).Nodup := by
  rw [H.ids_eq]
  exact List.Nodup.map (fun _ _ => number_inj.mp) List.nodup_range

/-- Requests and responses, over the whole life of a client, whatever the servers send and whatever
happens in which order. The numbers of requests are different, and they are words as long as there
are not too many. Who stands in a table was issued and has no reply. A request that is registered
gets the reply that its fate is, if this is one, and stands in its table as long as it has no fate.
Only registered requests get replies, and requests end with their own: with another result they end
only if they have none, or could not be written. A message that is read
completes the one request with its number, if this stands in the table of the reader, and changes
no table, no reply and no request otherwise. -/
theorem Run.correlation (h : Run (.initial config) actions s) :
    ((s.calls.map (·.id)).Nodup ∧
      (s.calls.length < 2 ^ 63 → ∀ call ∈ s.calls, 0 < call.id ∧ call.id < 2 ^ 63)) ∧
    (∀ t id, s.client.isWaitingIn t id = true →
      (∃ call ∈ s.calls, call.id = id) ∧ s.client.replyTo? id = none) ∧
    (∀ before after s₁ s₂ k, Run (.initial config) before s₁ → Step s₁ (.call k .register) s₂ →
      Run s₂ after s →
      (∀ reply, s.client.replyTo? (number k) = some reply ↔
        after.findSome? (fate s₁.client.table (number k)) = some (.replied reply)) ∧
      ∀ t, s.client.isWaitingIn t (number k) = true ↔
        t = s₁.client.table ∧ after.findSome? (fate s₁.client.table (number k)) = none) ∧
    (∀ id reply, s.client.replyTo? id = some reply →
      ∃ k, id = number k ∧ .call k .register ∈ actions) ∧
    (∀ (k : Nat) (call : Call) (result : Except Error Json), s.calls[k]? = some call →
      call.stage = .ended result →
      (∃ reply, s.client.replyTo? call.id = some reply ∧ result = reply.toResult) ∨
        (∃ cause, result = .error (.transport cause)) ∨
        (s.client.replyTo? call.id = none ∧
          (result = .error .notRunning ∨ result = .error (.cancelled call.method)))) ∧
    (∀ server t message s', Step s (.reader server t (.read message)) s' →
      s'.calls = s.calls ∧
        ((∃ id reply, responseOf? message = some (id, reply) ∧ s.client.isWaitingIn t id = true ∧
            s'.client.replies = (id, reply) :: s.client.replies ∧
            s'.client.tables = s.client.tables.modify t (·.remove id)) ∨
          ((∀ id reply, responseOf? message = some (id, reply) →
              s.client.isWaitingIn t id = false) ∧
            s'.client.replies = s.client.replies ∧ s'.client.tables = s.client.tables))) := by
  have H := h.ledger (.initial config)
  refine ⟨⟨H.nodup_ids, fun hfew call hcall => ?_⟩, fun t id hw => ⟨?_, H.unanswered hw⟩,
    fun before after s₁ s₂ k hbefore hregister hafter =>
      hafter.fate_of_registers hregister (hbefore.ledger (.initial config)),
    fun id reply hr => ?_, fun k call result hk hended => ?_, fun _ _ _ _ hread => hread.read_cases⟩
  · obtain ⟨k, hk⟩ := List.getElem?_of_mem hcall
    have hlt := (List.getElem?_eq_some_iff.mp hk).1
    rw [H.ids hk, number]
    omega
  · obtain ⟨k, call, hk, rfl, -⟩ := H.waiting hw
    exact ⟨call, List.mem_of_getElem? hk, H.ids hk⟩
  · rcases h.registers_of_reply (.initial config) hr with hr | ⟨t, hw⟩ | hregisters
    · cases hr
    · rw [initial, not_isWaitingIn_new] at hw; cases hw
    · exact hregisters
  · rw [H.ids hk]
    have hsettled := h.settled (.initial config) (fun _ _ _ hk => by cases hk)
    rcases hsettled k call result hk hended with hreply | htransport | ⟨he, hunanswered⟩
    · exact .inl hreply
    · exact .inr (.inl htransport)
    · exact .inr (.inr ⟨hunanswered.1, he⟩)

/-- The response to the first request. -/
def firstResponse : Json :=
  .object [("id", .ofInt 1), ("jsonrpc", .string "2.0"), ("result", .null)]

/-- A server responds to the first request, which gets the response and leaves the table. -/
theorem Run.correlation_first_request :
    ∃ s, Run (.initial (.analyzer "wa")) ([.owner .beginStart, .owner .attach,
        .owner (.introduce 1 none), .call 0 .register] ++ [.call 0 .write,
        .arrive 0 (Protocol.Frame.encode firstResponse), .reader 0 1 (.read firstResponse)]) s ∧
      s.client.replyTo? 1 = some (.result .null) ∧ ∀ t, s.client.isWaitingIn t 1 = false := by
  have hproper : firstResponse.Proper :=
    ⟨Dict.Sorted.ofList [("id", _), ("jsonrpc", _), ("result", _)], ⟨by decide, by decide⟩, trivial,
      trivial, trivial⟩
  have hread : Protocol.Frame.read false (Protocol.Frame.encode firstResponse) =
      .message firstResponse [] := by
    rw [← List.append_nil (Protocol.Frame.encode _)]
    exact Protocol.Frame.read_encode false hproper ⟨rfl, trivial, trivial, trivial⟩ (by decide)
      (Protocol.Frame.length_encode_compact_lt (by decide +kernel)) []
  obtain ⟨s₁, hbefore, htable, s₂, hregister, s, hafter⟩ :
      ∃ s₁, Run (.initial (.analyzer "wa")) [.owner .beginStart, .owner .attach,
          .owner (.introduce 1 none)] s₁ ∧ s₁.client.table = 1 ∧
        ∃ s₂, Step s₁ (.call 0 .register) s₂ ∧
        ∃ s, Run s₂ [.call 0 .write, .arrive 0 (Protocol.Frame.encode firstResponse),
            .reader 0 1 (.read firstResponse)] s :=
    ⟨_, .step (.owner (.beginStart ⟨rfl, nofun⟩)) <| .step (.owner (.attach rfl)) <|
        .step (.owner (.introduce 1 none rfl rfl)) <| .done _, rfl,
      _, .call rfl (.register rfl rfl),
      _, .step (.call rfl (.write rfl)) <| .step (.arrive _ rfl rfl) <|
        .step (.reader rfl (.read rfl hread rfl)) <| .done _⟩
  have hrun := hbefore.append (.step hregister hafter)
  obtain ⟨hreply, hwaiting⟩ := (Run.correlation hrun).2.2.1 _ _ s₁ s₂ 0 hbefore hregister hafter
  have hfate : [Action.call 0 .write, .arrive 0 (Protocol.Frame.encode firstResponse),
      .reader 0 1 (.read firstResponse)].findSome? (fate 1 (number 0)) =
        some (.replied (.result .null)) := rfl
  rw [htable, hfate] at hreply hwaiting
  refine ⟨s, hrun, (hreply (.result .null)).mpr rfl, fun t => Bool.eq_false_iff.mpr fun hw => ?_⟩
  have hnone := ((hwaiting t).mp hw).2
  cases hnone

end Traffic

end AnalyzerClient
