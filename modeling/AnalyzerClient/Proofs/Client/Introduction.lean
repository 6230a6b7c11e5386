import AnalyzerClient.Proofs.Client.Correlation
import AnalyzerClient.Proofs.Client.Newcomer
import AnalyzerClient.Proofs.Protocol.Conversation

/-!
# The introduction to a server

A start introduces the client to its server: it makes one request, and goes on when the reader of
the server routed a result of the right kind to this request (`Welcomed`), of which it notifies the
server. `Introduction` says what is known of this while the start is under way.
-/

namespace AnalyzerClient.Traffic

open Client (responseOf?)
open AnalyzerClient.Protocol (Frame.encode Frame.read)

variable {config : Server.Config} {s₀ s s' : Traffic} {a : Action} {actions earlier : List Action}
  {i t : Nat} {id : Int} {reply : Reply}

theorem fate_eq_replied (h : fate t id a = some (.replied reply)) :
    ∃ server message, a = .reader server t (.read message) ∧
      responseOf? message = some (id, reply) := by
  unfold fate at h
  split at h
  · next server t' message =>
    split at h
    · next id' reply' hresponse =>
      split at h
      · next he =>
        obtain ⟨rfl, rfl⟩ := he
        cases h
        exact ⟨server, message, rfl, hresponse⟩
      · cases h
    · cases h
  · split at h <;> cases h
  · split at h <;> cases h
  · cases h

/-- The reader of the server of a start routed a reply to the request that the start made. -/
def Answered (s₀ : Traffic) (actions : List Action) (reply : Reply) : Prop :=
  ∃ before after s t message, actions = before ++ .reader s₀.next t (.read message) :: after ∧
    Span .start s₀ before s ∧ s.client.isWaitingIn t (number s₀.calls.length) = true ∧
      responseOf? message = some (number s₀.calls.length, reply)

/-- The server of a start responded to the request of the start, with a result of its kind. -/
def Welcomed (s₀ : Traffic) (actions : List Action) : Prop :=
  ∃ value info, Answered s₀ actions (.result value) ∧
    Protocol.initializeRecord.decode.ofJson value = .ok info

theorem Answered.concat (h : Answered s₀ actions reply) (a : Action) :
    Answered s₀ (actions ++ [a]) reply := by
  obtain ⟨before, after, s, t, message, rfl, hrest⟩ := h
  exact ⟨before, after ++ [a], s, t, message, by rw [List.append_assoc, List.cons_append], hrest⟩

theorem Welcomed.concat (h : Welcomed s₀ actions) (a : Action) : Welcomed s₀ (actions ++ [a]) := by
  obtain ⟨value, info, hanswered, hdecode⟩ := h
  exact ⟨value, info, hanswered.concat a, hdecode⟩

/-- How far the introduction to the server of a start is. -/
structure Introduction (s₀ : Traffic) (actions : List Action) (s : Traffic) : Prop where
  /-- The request of a start is the first one after its beginning. -/
  first : s.owner = .tabled ∨ s.owner = .attached → s.calls.length = s₀.calls.length
  introducing : ∀ {k : Nat}, s.owner = .introducing k → k = s₀.calls.length
  /-- The request stands in the table of the start. -/
  awaits : ∀ {t : Nat}, s.client.isWaitingIn t (number s₀.calls.length) = true →
    t = s₀.client.tables.length
  answered : ∀ {reply : Reply}, s.client.replyTo? (number s₀.calls.length) = some reply →
    Answered s₀ actions reply
  welcomed : s.owner = .introduced ∨ s.owner = .acknowledged → Welcomed s₀ actions
  acknowledged : s.owner = .acknowledged → .owner .acknowledge ∈ actions
  marks : .owner .acknowledge ∈ actions → s.owner = .acknowledged ∨ .owner .mark ∈ actions

namespace Introduction

theorem begin (hledger : Ledger s₀) (h : Step s₀ (.owner .beginStart) s) :
    Introduction s₀ [] s := by
  -- the request has no number yet
  have hnew : ¬ s₀.Registered (number s₀.calls.length) := by
    rintro ⟨k, call, hk, hid, -⟩
    rw [← number_inj.mp hid] at hk
    exact Nat.lt_irrefl _ (List.getElem?_eq_some_iff.mp hk).1
  have hwaits (t : Nat) : s.client.isWaitingIn t (number s₀.calls.length) ≠ true := fun hw => by
    rcases (hledger.isWaitingIn_step h t _).mp hw with ⟨_, he, -⟩ | ⟨hw, -⟩
    · cases he
    · exact hnew (hledger.waiting hw)
  have hreplied (reply : Reply) : s.client.replyTo? (number s₀.calls.length) ≠ some reply :=
    fun hr => by
      rcases (hledger.replyTo?_step h _ reply).mp hr with hr | ⟨t, -, hfate⟩
      · exact hnew (hledger.replied hr)
      · cases hfate
  cases h with
  | owner hstep =>
    cases hstep
    exact ⟨fun _ => rfl, nofun, fun hw => absurd hw (hwaits _), fun hr => absurd hr (hreplied _),
      (by rintro (he | he) <;> cases he), nofun, nofun⟩

/-- Only the owner makes requests while a start is under way. -/
theorem first_step (H : Introduction s₀ actions s) (h : Step s a s') (hcall : a.isCall = false)
    (howner : s'.owner = .tabled ∨ s'.owner = .attached) : s'.calls.length = s₀.calls.length := by
  cases h with
  | begin _ _ hidle =>
    rcases howner with howner | howner <;> cases hidle.symm.trans howner
  | call => exact List.length_set.trans (H.first howner)
  | owner hstep =>
    cases hstep with
    | beginStart => cases hcall
    | attach hwhere => exact H.first (.inl hwhere)
    | _ => rcases howner with howner | howner <;> cases howner
  | _ => exact H.first howner

/-- A result of the right kind is the one that the reader of the new server read. -/
theorem welcomed_step (H : Introduction s₀ actions s) (hsettled : Settled s) (h : Step s a s')
    (howner : s'.owner = .introduced ∨ s'.owner = .acknowledged) :
    Welcomed s₀ (actions ++ [a]) := by
  cases h with
  | owner hstep =>
    cases hstep with
    | @accept k call value info hwhere hcalled hended hdecode =>
      obtain rfl := H.introducing hwhere
      refine Welcomed.concat ⟨value, info, H.answered ?_, hdecode⟩ _
      rcases hsettled _ call _ hcalled hended with ⟨reply, hr, hresult⟩ | ⟨_, he⟩ | ⟨he | he, -⟩
      · cases reply with
        | result value' => cases hresult; exact hr
        | error code message => cases hresult
      · cases he
      · cases he
      · cases he
    | acknowledge hwhere => exact (H.welcomed (.inl hwhere)).concat _
    | _ => rcases howner with howner | howner <;> cases howner
  | _ => exact (H.welcomed howner).concat _

theorem marks_step (H : Introduction s₀ actions s) (h : Step s a s')
    (hmem : .owner .acknowledge ∈ actions ++ [a]) :
    s'.owner = .acknowledged ∨ .owner .mark ∈ actions ++ [a] := by
  rcases List.mem_append.mp hmem with hmem | hmem
  · rcases H.marks hmem with howner | hmark
    · cases h with
      | @owner action _ hstep =>
        have hstarts := hstep.startsAt
        rw [howner] at hstarts
        cases action with
        | mark => exact .inr (List.mem_append_right _ (List.mem_singleton_self _))
        | _ => cases hstarts
      | _ => exact .inl howner
    · exact .inr (List.mem_append_left _ hmark)
  · cases List.mem_singleton.mp hmem
    cases h with
    | owner hstep => cases hstep; exact .inl rfl

theorem step (H : Introduction s₀ actions s) (hspan : Span .start s₀ actions s)
    (hnew : Newcomer s₀ actions s) (hledger : Ledger s) (hsettled : Settled s) (h : Step s a s')
    (hcall : a.isCall = false) : Introduction s₀ (actions ++ [a]) s' := by
  refine ⟨H.first_step h hcall, fun howner => ?_, fun hw => ?_, fun {reply} hr => ?_,
    H.welcomed_step hsettled h, fun howner => ?_, H.marks_step h⟩
  · cases h with
    | owner hstep =>
      cases hstep with
      | introduce _ _ hwhere => cases howner; exact H.first (.inr hwhere)
      | _ => cases howner
    | _ => exact H.introducing howner
  · rcases (hledger.isWaitingIn_step h _ _).mp hw with ⟨_, -, -, rfl⟩ | ⟨hw, -⟩
    · exact hnew.table
    · exact H.awaits hw
  · rcases (hledger.replyTo?_step h _ reply).mp hr with hr | ⟨t, hw, hfate⟩
    · exact (H.answered hr).concat a
    · -- the number of the introduction stands in the table of the start, which only the reader of
      -- the new server resolves
      obtain ⟨server, message, rfl, hresponse⟩ := fate_eq_replied hfate
      obtain ⟨ht, st, -, -, -, hst, -⟩ := h.reader_step
      obtain rfl := hnew.eq_next (List.getElem?_eq_some_iff.mp hst).1 (ht ▸ H.awaits hw)
      exact ⟨actions, [], s, t, message, rfl, hspan, hw, hresponse⟩
  · cases h with
    | owner hstep =>
      cases hstep with
      | acknowledge => exact List.mem_append_right _ (List.mem_singleton_self _)
      | _ => cases howner
    | _ => exact List.mem_append_left _ (H.acknowledged howner)

end Introduction

theorem Span.introduction (h : Run (.initial config) earlier s₀)
    (hspan : Span .start s₀ actions s) : Introduction s₀ actions s := by
  refine hspan.induct (fun hbegin => .begin (h.ledger (.initial config)) hbegin)
    fun {before s₁ a s₂} hbefore H hcall hstep => ?_
  have hrun := h.append hbefore.whole
  exact H.step hbefore (Span.newcomer h hbefore) (hrun.ledger (.initial config))
    (hrun.settled (.initial config) fun _ _ _ hk => by cases hk) hstep hcall

/-! ## An introduction -/

/-- The response of a server that names no capabilities and does not tell who it is. -/
def welcome : Json :=
  .object [("id", .ofInt 1), ("jsonrpc", .string "2.0"),
    ("result", .object [("capabilities", .object [])])]

theorem read_welcome (closed : Bool) :
    Frame.read closed (Frame.encode welcome) = .message welcome [] := by
  have hproper : welcome.Proper :=
    ⟨Dict.Sorted.ofList [("id", _), ("jsonrpc", _), ("result", _)], ⟨by decide, by decide⟩, trivial,
      ⟨Dict.Sorted.ofList [("capabilities", _)], ⟨Dict.Sorted.ofList [], trivial⟩, trivial⟩,
      trivial⟩
  rw [← List.append_nil (Frame.encode _)]
  exact Protocol.Frame.read_encode closed hproper ⟨rfl, trivial, ⟨trivial, trivial⟩, trivial⟩
    (by decide) (Protocol.Frame.length_encode_compact_lt (by decide +kernel)) []

theorem decode_welcome :
    Protocol.initializeRecord.decode.ofJson (.object [("capabilities", .object [])]) = .ok none :=
  rfl

/-- A first start that succeeds. -/
def handshake : List Action :=
  [.owner .attach, .owner (.introduce 1 none), .call 0 .register, .call 0 .write,
    .arrive 0 (Frame.encode welcome), .reader 0 1 (.read welcome), .call 0 .receive,
    .owner (.accept none), .owner .acknowledge, .owner .mark, .owner .tellStarted]

theorem Run.connects : ∃ s₁ s, Step (.initial (.analyzer "wa")) (.owner .beginStart) s₁ ∧
    Run s₁ handshake s ∧ s.Free ∧ s.client.state = .running ∧ s.client.readers = [1] ∧
      s.client.transport = some 0 ∧ s.streams = [.fresh] := by
  refine ⟨_, _, .owner (.beginStart ⟨rfl, nofun⟩), .step (.owner (.attach rfl)) <|
    .step (.owner (.introduce 1 none rfl rfl)) <| .step (.call rfl (.register rfl rfl)) <|
    .step (.call rfl (.write rfl)) <| .step (.arrive _ rfl rfl) <|
    .step (.reader rfl (.read rfl (read_welcome false) rfl)) <|
    .step (.call rfl (.receive rfl rfl)) <| .step (.owner (.accept rfl rfl rfl decode_welcome)) <|
    .step (.owner (.acknowledge rfl rfl)) <| .step (.owner (.mark rfl rfl)) <|
    .step (.owner (.tellStarted rfl)) <| .done _, ⟨rfl, fun call hcall => ?_⟩, rfl, rfl, rfl, rfl⟩
  exact List.mem_singleton.mp hcall ▸ rfl

end AnalyzerClient.Traffic
