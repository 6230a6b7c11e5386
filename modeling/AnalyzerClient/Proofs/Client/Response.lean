import AnalyzerClient.Proofs.Client.Correlation

/-!
# What a response makes of its request

A response that reaches a request in a table decides what the request gives, whatever happens
afterwards: its error, if it has a member of this name, and its result otherwise (`Run.response`).
The reply stays, and the request goes on to end with it (`Run.follows`). A null error counts as an
error, which is not what its server means (`Reply.meantBy`).
-/

namespace AnalyzerClient

open AnalyzerClient.Protocol (Error Message Request)

/-- The reply that is made of a response: any member of the name counts as an error. -/
def Reply.ofMessage (message : Json) : Reply :=
  .ofResponse (message.member? "result") ((message.member? "error").map Message.errorOf)

/-- The reply that the server of a response means: null is no error. -/
def Reply.meantBy (message : Json) : Reply :=
  match message.member "error" with
  | .null => .result (message.member "result")
  | e => .error (Message.errorOf e).code (Message.errorOf e).message

variable {message e : Json} {n : Int} {reply : Reply}

namespace Reply

theorem ofMessage_of_none (h : message.member? "error" = none) :
    ofMessage message = .result (message.member "result") := by
  rw [ofMessage, h]
  rfl

theorem ofMessage_of_some (h : message.member? "error" = some e) :
    ofMessage message = .error (Message.errorOf e).code (Message.errorOf e).message := by
  rw [ofMessage, h]
  rfl

theorem ofMessage_eq_meantBy_iff :
    ofMessage message = meantBy message ↔ message.member? "error" ≠ some .null := by
  rw [meantBy, Json.member]
  cases h : message.member? "error" with
  | none => exact iff_of_true (ofMessage_of_none h) nofun
  | some e =>
    rw [ofMessage_of_some h]
    cases e with
    | null => exact iff_of_false nofun (absurd rfl)
    | _ => exact iff_of_true rfl nofun

end Reply

/-- A message with a number of a request and no method is a response. -/
theorem Client.responseOf?_eq_some_iff : responseOf? message = some (n, reply) ↔
    (message.member? "id").bind Json.int64? = some n ∧
      (message.member? "method").bind Json.string? = none ∧ reply = .ofMessage message := by
  rw [responseOf?, Message.ofJson, Reply.ofMessage]
  cases message.member? "id" with
  | none => cases (message.member? "method").bind Json.string? <;> simp
  | some id =>
    cases (message.member? "method").bind Json.string? with
    | some method => simp
    | none =>
      cases hid : id.int64? with
      | none => simp [hid]
      | some n' => simp [hid, eq_comm]

/-- A request gives an error of the server exactly when the response has an error. -/
theorem ExchangeM.decodeResult_ofMessage {α : Type} (r : Request α) :
    (∃ code text, decodeResult r (Reply.ofMessage message).toResult = .error (.server code text)) ↔
      ∃ e, message.member? "error" = some e := by
  cases h : message.member? "error" with
  | none =>
    rw [Reply.ofMessage_of_none h]
    refine iff_of_false ?_ nofun
    rintro ⟨code, text, hdecode⟩
    rw [decodeResult, Reply.toResult] at hdecode
    simp only [bind, Except.bind] at hdecode
    cases hvalue : r.decode.ofJson (message.member "result") with
    | error f => rw [hvalue] at hdecode; cases hdecode
    | ok v => rw [hvalue] at hdecode; cases hdecode
  | some e =>
    rw [Reply.ofMessage_of_some h]
    exact iff_of_true ⟨_, _, rfl⟩ ⟨e, rfl⟩

namespace Traffic

open Client (responseOf?)

variable {config : Server.Config} {s s' : Traffic} {a : Action} {actions : List Action}
  {k t : Nat} {call : Call} {early : Prop}

/-! ## Requests that were answered -/

/-- A request that has ended and stands in a table was there before the step already. -/
theorem Ledger.ended_back (H : Ledger s) (h : Step s a s') {result : Except Error Json}
    (hwaiting : s'.client.isWaitingIn t (number k) = true) (hk : s'.calls[k]? = some call)
    (hended : call.stage = .ended result) :
    s.client.isWaitingIn t (number k) = true ∧ fate t (number k) a = none ∧
      s.calls[k]? = some call := by
  rcases (H.isWaitingIn_step h t _).mp hwaiting with ⟨k', rfl, hk', -⟩ | ⟨hwaiting, hfate⟩
  · -- A request that was just registered has been issued before.
    obtain rfl := number_inj.mp hk'
    cases h with
    | call hcalled hstep =>
      cases hstep with
      | register =>
        rw [List.getElem?_set_self (List.getElem?_eq_some_iff.mp hcalled).1] at hk
        cases hk
        cases hended
  · refine ⟨hwaiting, hfate, ?_⟩
    rcases Ledger.call_back h hk with
      ⟨before, hbefore, rfl | ⟨action, c, stage, _, rfl, hstep, rfl⟩⟩ | ⟨-, -, hissued⟩
    · exact hbefore
    · cases hstep with
      | refuse hstage => exact absurd (H.waiting hwaiting) (not_registered hbefore hstage)
      | withdraw hstage => simp [fate] at hfate
      | receive hstage houtcome =>
        rcases ExchangeM.outcome_eq_some houtcome with ⟨reply, hreply, -⟩ | ⟨-, hnot, -⟩
        · rw [H.ids hbefore, H.unanswered hwaiting] at hreply
          cases hreply
        · rw [H.ids hbefore, Client.isWaiting_of_isWaitingIn hwaiting] at hnot
          cases hnot
      | register | write | writeFails | drop => cases hended
    · rw [hissued] at hended; cases hended

/-- A request that stands in a table has not ended. -/
def Unended (s : Traffic) : Prop :=
  ∀ t k call result, s.client.isWaitingIn t (number k) = true → s.calls[k]? = some call →
    call.stage ≠ .ended result

theorem Unended.step (hs : Unended s) (H : Ledger s) (h : Step s a s') : Unended s' := by
  intro t k call result hwaiting hk hended
  obtain ⟨hbefore, -, hk'⟩ := H.ended_back h hwaiting hk hended
  exact hs t k call result hbefore hk' hended

theorem Run.unended (h : Run s actions s') (H : Ledger s) (hs : Unended s) : Unended s' := by
  induction h with
  | done => exact hs
  | step hfirst _ ih => exact ih (H.step hfirst) (hs.step H hfirst)

/-- The stages of a request after the reply to it is there. It cannot end otherwise than by the
reply, unless the reply came `early`, before it was written, and the writing fails. -/
def Stage.Follows (reply : Reply) (early : Prop) : Stage → Prop
  | .issued => False
  | .registered | .unsent _ => early
  | .sent | .dropped => True
  | .ended result => result = reply.toResult ∨ early ∧ ∃ cause, result = .error (.transport cause)

theorem CallStep.follows {c c' : Client} {action : CallAction} {stage : Stage}
    {parcels : List Parcel} (h : CallStep k c call action c' stage parcels)
    (hreply : c.replyTo? call.id = some reply) (hs : call.stage.Follows reply early) :
    stage.Follows reply early := by
  cases h with
  | register hstage | refuse hstage => rw [hstage] at hs; exact hs.elim
  | write | drop => exact trivial
  | writeFails cause hstage => rw [hstage] at hs; exact hs
  | @withdraw cause hstage => rw [hstage] at hs; exact .inr ⟨hs, cause, rfl⟩
  | receive hstage houtcome =>
    rcases ExchangeM.outcome_eq_some houtcome with ⟨reply', hreply', rfl⟩ | ⟨hnone, -⟩
    · cases hreply.symm.trans hreply'
      exact .inl rfl
    · cases hreply.symm.trans hnone

/-- A reply that is there stays, and its request goes on to end with it. -/
theorem Run.follows (h : Run s actions s') (H : Ledger s)
    (hreply : s.client.replyTo? (number k) = some reply) (hk : s.calls[k]? = some call)
    (hfollows : call.stage.Follows reply early) :
    s'.client.replyTo? (number k) = some reply ∧
      ∃ call', s'.calls[k]? = some call' ∧ call'.stage.Follows reply early := by
  induction h generalizing call with
  | done => exact ⟨hreply, call, hk, hfollows⟩
  | step hfirst _ ih =>
    have hreply₁ := (H.replyTo?_step hfirst _ _).mpr (.inl hreply)
    rcases hfirst.call_cases hk with hk₁ | ⟨action, c, stage, parcels, rfl, hstep, hk₁⟩
    · exact ih (H.step hfirst) hreply₁ hk₁ hfollows
    · exact ih (H.step hfirst) hreply₁ hk₁
        (hstep.follows (by rw [H.ids hk]; exact hreply) hfollows)

/-- A request that was sent can receive the reply that is there. -/
theorem Ledger.exists_receive (H : Ledger s) (hk : s.calls[k]? = some call)
    (hsent : call.stage = .sent) (hreply : s.client.replyTo? (number k) = some reply) :
    ∃ s', Step s (.call k .receive) s' ∧
      s'.calls[k]? = some { call with stage := .ended reply.toResult } := by
  have houtcome : ExchangeM.outcome s.client call.method call.id = some reply.toResult := by
    rw [ExchangeM.outcome, H.ids hk, hreply]
    cases reply <;> rfl
  exact ⟨_, .call hk (.receive hsent houtcome),
    List.getElem?_set_self (List.getElem?_eq_some_iff.mp hk).1⟩

/-- What a response makes of the request with its number, if this stands in the table of the reader.
From now on the reply is there, and the request does not end without it, unless writing it fails
later than its response comes; once it is written it can end. Without an error it gives the result,
decoded as the request wants it, and it gives an error of the server exactly if there is a member of
this name. This is what the server means except if the error is null. -/
theorem Run.response (h : Run (.initial config) actions s) {server : Nat}
    (hread : Step s (.reader server t (.read message)) s')
    (hid : (message.member? "id").bind Json.int64? = some n)
    (hmethod : (message.member? "method").bind Json.string? = none)
    (hwaiting : s.client.isWaitingIn t n = true) :
    (∃ k call, n = number k ∧ s.calls[k]? = some call ∧
      ∀ later s'', Run s' later s'' →
        s''.client.replyTo? n = some (.ofMessage message) ∧
        ∃ call', s''.calls[k]? = some call' ∧
          call'.stage.Follows (.ofMessage message) (call.stage ≠ .sent) ∧
          (call'.stage = .sent → ∃ s₃, Step s'' (.call k .receive) s₃ ∧
            s₃.calls[k]? =
              some { call' with stage := .ended (Reply.ofMessage message).toResult })) ∧
    (message.member? "error" = none →
      (Reply.ofMessage message).toResult = .ok (message.member "result")) ∧
    (∀ e, message.member? "error" = some e →
      (Reply.ofMessage message).toResult = .error (.server ((e.member "code").int64?.getD 0)
        ((e.member "message").string?.getD ""))) ∧
    (Reply.ofMessage message = .meantBy message ↔ message.member? "error" ≠ some .null) ∧
    ∀ {α : Type} (r : Request α),
      (message.member? "error" = none →
        ExchangeM.decodeResult r (Reply.ofMessage message).toResult =
          (r.decode.ofJson (message.member "result")).mapError .json) ∧
      ((∃ code text, ExchangeM.decodeResult r (Reply.ofMessage message).toResult =
          .error (.server code text)) ↔ ∃ e, message.member? "error" = some e) := by
  have H := h.ledger (.initial config)
  have hresponse := Client.responseOf?_eq_some_iff.mpr ⟨hid, hmethod, rfl⟩
  refine ⟨?_, fun hnone => ?_, fun e he => ?_, Reply.ofMessage_eq_meantBy_iff, fun r =>
    ⟨fun hnone => ?_, ExchangeM.decodeResult_ofMessage r⟩⟩
  · obtain ⟨k, call, hk, rfl, hissued⟩ := H.waiting hwaiting
    have hunended : Unended s := h.unended (.initial config) fun _ _ _ _ _ hk => by cases hk
    have hfollows : call.stage.Follows (.ofMessage message) (call.stage ≠ .sent) := by
      cases hstage : call.stage with
      | issued => exact absurd hstage hissued
      | registered | unsent => exact nofun
      | sent | dropped => exact trivial
      | ended result => exact absurd hstage (hunended t k call result hwaiting hk)
    have hreply : s'.client.replyTo? (number k) = some (.ofMessage message) :=
      (H.replyTo?_step hread _ _).mpr (.inr ⟨t, hwaiting, by simp [fate, hresponse]⟩)
    refine ⟨k, call, rfl, hk, fun later s'' hlater => ?_⟩
    obtain ⟨hreply'', call', hk', hfollows'⟩ := hlater.follows (H.step hread) hreply
      (by rw [hread.read_cases.1]; exact hk) hfollows
    exact ⟨hreply'', call', hk', hfollows', fun hsent =>
      (hlater.ledger (H.step hread)).exists_receive hk' hsent hreply''⟩
  · rw [Reply.ofMessage_of_none hnone]; rfl
  · rw [Reply.ofMessage_of_some he]; rfl
  · rw [Reply.ofMessage_of_none hnone]; rfl

/-- A response to the first request that names no error, in so many words. -/
def verboseResponse : Json :=
  .object [("error", .null), ("id", .ofInt 1), ("jsonrpc", .string "2.0"),
    ("result", .string "digraph")]

/-- The first request fails although its server gave a result and no error. -/
theorem Run.response_verbose :
    ∃ s s', Run (.initial (.analyzer "wa")) [.owner .beginStart, .owner .attach,
        .owner (.introduce 1 none), .call 0 .register, .call 0 .write,
        .arrive 0 (Protocol.Frame.encode verboseResponse)] s ∧
      Step s (.reader 0 1 (.read verboseResponse)) s' ∧
      (verboseResponse.member? "id").bind Json.int64? = some 1 ∧
      (verboseResponse.member? "method").bind Json.string? = none ∧
      s.client.isWaitingIn 1 1 = true ∧
      s'.client.replyTo? 1 = some (.ofMessage verboseResponse) ∧
      (Reply.ofMessage verboseResponse).toResult = .error (.server 0 "") ∧
      Reply.ofMessage verboseResponse ≠ .meantBy verboseResponse := by
  have hproper : verboseResponse.Proper :=
    ⟨Dict.Sorted.ofList [("error", _), ("id", _), ("jsonrpc", _), ("result", _)], trivial,
      ⟨by decide, by decide⟩, trivial, trivial, trivial⟩
  have hread : Protocol.Frame.read false (Protocol.Frame.encode verboseResponse) =
      .message verboseResponse [] := by
    rw [← List.append_nil (Protocol.Frame.encode _)]
    exact Protocol.Frame.read_encode false hproper ⟨trivial, rfl, trivial, trivial, trivial⟩
      (by decide) (Protocol.Frame.length_encode_compact_lt (by decide +kernel)) []
  obtain ⟨s, hrun, s', hstep, hwaiting⟩ :
      ∃ s, Run (.initial (.analyzer "wa")) [.owner .beginStart, .owner .attach,
          .owner (.introduce 1 none), .call 0 .register, .call 0 .write,
          .arrive 0 (Protocol.Frame.encode verboseResponse)] s ∧
        ∃ s', Step s (.reader 0 1 (.read verboseResponse)) s' ∧ s.client.isWaitingIn 1 1 = true :=
    ⟨_, .step (.owner (.beginStart ⟨rfl, nofun⟩)) <| .step (.owner (.attach rfl)) <|
        .step (.owner (.introduce 1 none rfl rfl)) <| .step (.call rfl (.register rfl rfl)) <|
        .step (.call rfl (.write rfl)) <| .step (.arrive _ rfl rfl) <| .done _,
      _, .reader rfl (.read rfl hread rfl), rfl⟩
  obtain ⟨⟨_, _, -, -, hlater⟩, -, herror, hmeant, -⟩ := Run.response hrun hstep rfl rfl hwaiting
  exact ⟨s, s', hrun, hstep, rfl, rfl, hwaiting, (hlater [] s' (.done s')).1, herror .null rfl,
    fun he => hmeant.mp he rfl⟩

end Traffic

end AnalyzerClient
