import AnalyzerClient.Proofs.Client.Effect
import AnalyzerClient.Proofs.Client.Settle

/-!
# Requests of an exchange

A request of an exchange is made, sent, awaited and answered as one of the traffic
(`ExchangeM.run_request`). A notification is only written, which nobody but the servers sees
(`ExchangeM.leads_notify`).
-/

namespace AnalyzerClient

open AnalyzerClient.Protocol (Error Message Request)
open Traffic

variable {s s' : Traffic} {x x' : Exchange} {server k : Nat}

/-- Takes a number for a request. -/
def Exchange.issue (x : Exchange) : Exchange := x.updateClient fun c => c.issue.2

namespace Traffic

theorem Tracks.withClient {c : Client} (h : s.Tracks x) (hc : x.client.SameServers c) :
    Tracks { s with client := c } { x with client := c } :=
  ⟨rfl, h.length, h.stream, fun hserver => h.attached (hc.transport ▸ hserver),
    hc.readers ▸ h.readers⟩

/-- What was written to a server does not matter until the server reads it. -/
theorem Tracks.write {written : Except Error Unit} {message : Json} (h : s.Tracks x)
    (hwrite : x.write server message = (written, x')) : s.Tracks x' := by
  cases hlink : x.links[server]? with
  | none =>
    rw [Exchange.write, hlink] at hwrite
    cases hwrite
    exact h
  | some link =>
    rw [write_eq hlink] at hwrite
    split at hwrite
    case isFalse =>
      cases hwrite
      exact h
    case isTrue =>
      cases hwrite
      obtain ⟨st, hst, ht⟩ := h.stream_of_link hlink
      have hst' : st.Tracks
          { link with peer := { link.peer with inbox := link.peer.inbox ++ [message] } } :=
        ⟨ht.octets, ht.ended, ht.stage, ht.sound⟩
      have hset := h.set (c := s.client)
        (f := fun l => { l with peer := { l.peer with inbox := l.peer.inbox ++ [message] } }) hlink
        hst' (by rw [h.client]; exact ⟨rfl, rfl⟩)
      obtain ⟨hlt, rfl⟩ := List.getElem?_eq_some_iff.mp hst
      rw [List.set_getElem_self, h.client] at hset
      exact hset.same h.client rfl

theorem Tracks.begin (h : s.Tracks x) (server : Nat) (method : String) (params : Json)
    (owner : Owner) : Tracks { s.begin server method params with owner := owner } x.issue :=
  have hissue : Tracks _ x.issue := h.withClient (c := x.client.issue.2) ⟨rfl, rfl⟩
  hissue.same (congrArg (·.issue.2) h.client) rfl

/-! ## Single requests -/

/-- Any number of actions of one request. -/
inductive CallSteps (k : Nat) : Client → Call → Client → Call → Prop
  | done (c : Client) (call : Call) : CallSteps k c call c call
  | step {c c' c'' : Client} {call call' : Call} {action : CallAction} {stage : Stage}
      {parcels : List Parcel} (first : CallStep k c call action c' stage parcels)
      (rest : CallSteps k c' { call with stage := stage } c'' call') : CallSteps k c call c'' call'

theorem CallSteps.run {c c' : Client} {call call' : Call} (h : CallSteps k c call c' call')
    (s : Traffic) (hc : s.client = c) (hk : s.calls[k]? = some call) :
    ∃ actions parcels, Run s actions
      { s with client := c', calls := s.calls.set k call', parcels := parcels } := by
  induction h generalizing s with
  | done c call =>
    obtain ⟨hlt, rfl⟩ := List.getElem?_eq_some_iff.mp hk
    subst hc
    refine ⟨[], s.parcels, ?_⟩
    rw [List.set_getElem_self]
    exact .done s
  | @step c c' c'' call call' action stage parcels first rest ih =>
    subst hc
    have hk' := List.getElem?_set_self (a := { call with stage := stage })
      (List.getElem?_eq_some_iff.mp hk).1
    obtain ⟨actions, parcels', hrun⟩ := ih { s with
      client := c', calls := s.calls.set k { call with stage := stage },
      parcels := s.parcels ++ parcels } rfl hk'
    simp only [List.set_set] at hrun
    exact ⟨_, parcels', .step (.call hk first) hrun⟩

/-- How far a request got when it was sent. -/
def Stage.ofSent : Except Error Int → Stage
  | .ok _ => .sent
  | .error e => .ended (.error e)

end Traffic

namespace Exchange

/-- Registers a request that has its number, and writes it. -/
def dispatch (x : Exchange) (server : Nat) (id : Int) (method : String) (params : Json) :
    Except Error Int × Exchange :=
  match x.client.register id with
  | .error e => (.error e, x)
  | .ok client =>
    let noted := client.note ("--> " ++ method ++ " #" ++ Text.Numeral.renderInt id)
    match (x.updateClient fun _ => noted).write server (Message.requestJson id method params) with
    | (.ok (), x) => (.ok id, x)
    | (.error e, x) => (.error e, x.updateClient (·.withdraw id))

/-- What `dispatch` does is done by the request. -/
theorem dispatch_steps {sent : Except Error Int} {id : Int} {method : String} {params : Json}
    (h : s.Tracks x) (hserver : server < x.links.length)
    (hsent : x.dispatch server id method params = (sent, x')) :
    CallSteps k s.client ⟨id, method, params, server, .issued⟩ x'.client
        ⟨id, method, params, server, .ofSent sent⟩ ∧
      Tracks { s with client := x'.client } x' ∧ ∀ id', sent = .ok id' → id' = id := by
  rw [dispatch] at hsent
  rw [h.client]
  cases hregister : x.client.register id with
  | error e =>
    rw [hregister] at hsent
    cases hsent
    exact ⟨.step (.refuse rfl hregister) (.done ..), h.withClient ⟨rfl, rfl⟩, nofun⟩
  | ok c =>
    rw [hregister] at hsent
    have hservers : x.client.SameServers c := by
      rw [(Client.register_eq_ok hregister).2]
      exact ⟨rfl, rfl⟩
    have hnoted := h.withClient
      (c := c.note ("--> " ++ method ++ " #" ++ Text.Numeral.renderInt id))
      (hservers.trans ⟨rfl, rfl⟩)
    have hregistered : CallStep k x.client ⟨id, method, params, server, .issued⟩ .register
        (c.note ("--> " ++ method ++ " #" ++ Text.Numeral.renderInt id)) .registered [] :=
      .register rfl hregister
    dsimp only at hsent
    cases hwrite : (x.updateClient fun _ => c.note
        ("--> " ++ method ++ " #" ++ Text.Numeral.renderInt id)).write server
          (Message.requestJson id method params) with
    | mk written x₁ =>
      have hwritten := hnoted.write hwrite
      rw [hwrite] at hsent
      cases written with
      | ok _ =>
        cases hsent
        refine ⟨.step hregistered ?_, hwritten.same hwritten.client.symm rfl, ?_⟩
        · rw [← hwritten.client]
          exact .step (.write rfl) (.done ..)
        · rintro _ ⟨⟩
          rfl
      | error e =>
        obtain ⟨link, hlink⟩ : ∃ link, x.links[server]? = some link :=
          ⟨_, List.getElem?_eq_getElem hserver⟩
        obtain rfl : e = .transport .brokenPipe := by
          rw [write_eq (x := x.updateClient _) hlink] at hwrite
          split at hwrite <;> cases hwrite
          rfl
        cases hsent
        refine ⟨.step hregistered ?_, ?_, nofun⟩
        · rw [show (x₁.updateClient (·.withdraw id)).client = x₁.client.withdraw id from rfl,
            ← hwritten.client]
          exact .step (.writeFails .brokenPipe rfl) (.step (.withdraw rfl) (.done ..))
        · exact (hwritten.withClient (c := x₁.client.withdraw id) ⟨rfl, rfl⟩).same rfl rfl

end Exchange

/-! ## Runs of an exchange -/

namespace ExchangeM

variable {α β : Type}

theorem bind_eq_some {m : ExchangeM α} {f : α → ExchangeM β} {b : β} :
    (m >>= f) x = some (b, x') ↔ ∃ a x₁, m x = some (a, x₁) ∧ f a x₁ = some (b, x') := by
  have hrun : (m >>= f) x = (m x).bind fun p => f p.1 p.2 := rfl
  rw [hrun, Option.bind_eq_some_iff]
  exact ⟨fun ⟨p, hm, hf⟩ => ⟨p.1, p.2, hm, hf⟩, fun ⟨a, x₁, hm, hf⟩ => ⟨(a, x₁), hm, hf⟩⟩

theorem get_bind_run (f : Exchange → ExchangeM β) (x : Exchange) : (get >>= f) x = f x x := rfl

theorem set_bind_run (x' : Exchange) (f : PUnit → ExchangeM β) (x : Exchange) :
    ((set x' : ExchangeM PUnit) >>= f) x = f ⟨⟩ x' := rfl

theorem updateClient_bind_run (g : Client → Client) (f : Unit → ExchangeM β) (x : Exchange) :
    (updateClient g >>= f) x = f () (x.updateClient g) := rfl

theorem settle_bind_run (f : Unit → ExchangeM β) (x : Exchange) :
    (settle >>= f) x = f () x.settle := rfl

theorem send_eq (method : String) (params : Json) (x : Exchange) :
    send method params x = some (match x.client.transport with
      | none => (.error .notRunning, x)
      | some server => x.issue.dispatch server x.client.nextId method params) := by
  rw [send, get_bind_run]
  cases x.client.transport with
  | none => rfl
  | some server =>
    have hissue : (x.updateClient fun _ => x.client.issue.2) = x.issue := rfl
    have hid : x.client.issue.1 = x.client.nextId := rfl
    have hclient : x.client.issue.2 = x.issue.client := rfl
    dsimp only
    rw [get_bind_run, updateClient_bind_run, Exchange.dispatch, hissue, hid, hclient]
    cases x.issue.client.register x.client.nextId with
    | error e => rfl
    | ok client =>
      dsimp only
      rw [updateClient_bind_run, get_bind_run, set_bind_run]
      generalize Exchange.write _ server _ = written
      obtain ⟨result, x₁⟩ := written
      cases result <;> rfl

theorem await_eq_some {method : String} {id : Int} {result : Except Error Json}
    (h : await method id x = some (result, x')) :
    outcome x.client method id = some result ∧ x' = x := by
  rw [await, get_bind_run] at h
  cases houtcome : outcome x.client method id with
  | none => rw [houtcome] at h; cases h
  | some result => rw [houtcome] at h; cases h; exact ⟨rfl, rfl⟩

theorem decodeResult_eq_ok {r : Request α} {raw : Except Error Json} {a : α}
    (h : decodeResult r raw = .ok a) :
    ∃ value, raw = .ok value ∧ r.decode.ofJson value = .ok a := by
  cases raw with
  | error e => cases h
  | ok value =>
    have hdecode : decodeResult r (.ok value) = (r.decode.ofJson value).mapError .json := rfl
    rw [hdecode] at h
    refine ⟨value, rfl, ?_⟩
    cases hvalue : r.decode.ofJson value with
    | error e => rw [hvalue] at h; cases h
    | ok a' => rw [hvalue] at h; cases h; rfl

theorem set_concat (calls : List Call) (call call' : Call) :
    (calls ++ [call]).set calls.length call' = calls ++ [call'] := by
  rw [List.set_append_right _ _ (Nat.le_refl _), Nat.sub_self, List.set_cons_zero]

/-- A request that was made is sent. -/
theorem run_send {sent : Except Error Int} {method : String} {params : Json}
    (hsend : x.issue.dispatch server x.client.nextId method params = (sent, x'))
    (hserver : x.client.transport = some server) (h : s.Tracks x) (owner : Owner) :
    ∃ actions s', Run { s.begin server method params with owner := owner } actions s' ∧
      s'.Tracks x' ∧ s'.owner = owner ∧
      s'.calls = s.calls ++ [⟨x.client.nextId, method, params, server, .ofSent sent⟩] ∧
      ∀ id, sent = .ok id → id = x.client.nextId := by
  have hbegin := h.begin server method params owner
  have hk : (s.begin server method params).calls[s.calls.length]? =
      some ⟨x.client.nextId, method, params, server, .issued⟩ := by
    rw [← h.client]
    exact List.getElem?_concat_length
  obtain ⟨hsteps, h', hid⟩ := Exchange.dispatch_steps (k := s.calls.length) hbegin
    (h.attached hserver) hsend
  obtain ⟨actions, parcels, hrun⟩ := hsteps.run _ rfl hk
  exact ⟨actions, _, hrun, h'.same rfl rfl, rfl, set_concat .., hid⟩

/-- A request is made, sent, awaited and answered, or it fails when it is sent. -/
theorem run_request {r : Request α} {result : Except Error α}
    (hrun : request r x = some (result, x')) (hserver : x.client.transport = some server)
    (h : s.Tracks x) (owner : Owner) :
    ∃ actions s' raw, Run { s.begin server r.method r.params with owner := owner } actions s' ∧
      s'.Tracks x' ∧ s'.owner = owner ∧
      s'.calls = s.calls ++ [⟨x.client.nextId, r.method, r.params, server, .ended raw⟩] ∧
      result = decodeResult r raw := by
  rw [request, bind_eq_some] at hrun
  obtain ⟨sent, x₁, hsend, hrun⟩ := hrun
  rw [send_eq, hserver, Option.some.injEq] at hsend
  obtain ⟨actions, s₁, hrun₁, h₁, howner₁, hcalls₁, hid⟩ := run_send hsend hserver h owner
  cases sent with
  | error e =>
    cases hrun
    exact ⟨actions, s₁, .error e, hrun₁, h₁, howner₁, hcalls₁, rfl⟩
  | ok id =>
    obtain rfl := hid id rfl
    dsimp only at hrun
    rw [settle_bind_run, bind_eq_some] at hrun
    obtain ⟨raw, x₂, hawait, hrun⟩ := hrun
    obtain ⟨houtcome, rfl⟩ := await_eq_some hawait
    cases hrun
    obtain ⟨actions', s₂, hsettle, h₂, hcalls₂, howner₂⟩ := leads_settle x₁ s₁ h₁
    rw [hcalls₁] at hcalls₂
    have hk : s₂.calls[s.calls.length]? =
        some ⟨x.client.nextId, r.method, r.params, server, .sent⟩ := by
      rw [hcalls₂]
      exact List.getElem?_concat_length
    rw [← h₂.client] at houtcome
    have hreceive := Step.call hk (.receive rfl houtcome)
    exact ⟨_, _, raw, hrun₁.append (hsettle.append (.step hreceive (.done _))), h₂.same rfl rfl,
      howner₂.trans howner₁, hcalls₂ ▸ set_concat .., rfl⟩

/-- A notification is written, or not, before everything happens that can happen. -/
theorem leads_notify {method : String} {params : Json} {written : Except Error Unit}
    (hrun : notify method params x = some (written, x')) :
    Leads x x' ∧ (written = .ok () → ∃ server, x.client.transport = some server) := by
  rw [notify, get_bind_run] at hrun
  cases htransport : x.client.transport with
  | none =>
    rw [htransport] at hrun
    cases hrun
    exact ⟨.refl _, nofun⟩
  | some server =>
    rw [htransport] at hrun
    dsimp only at hrun
    rw [get_bind_run] at hrun
    cases hwrite : x.write server (Message.notificationJson method params) with
    | mk written₁ x₁ =>
      rw [hwrite] at hrun
      dsimp only at hrun
      rw [set_bind_run, settle_bind_run] at hrun
      cases hrun
      have hwritten : Leads x x₁ := fun s h => ⟨[], s, .done s, h.write hwrite, rfl, rfl⟩
      exact ⟨hwritten.trans (leads_settle x₁), fun _ => ⟨server, rfl⟩⟩

end ExchangeM

end AnalyzerClient
