import AnalyzerClient.Proofs.Client.Exchange
import AnalyzerClient.Proofs.Client.Ledger

/-!
# Clients and servers that take turns

An exchange is one of the ways in which a client and its servers can run side by side: what an
exchange does when servers are started and stopped and messages are sent is a run of the traffic
(`ExchangeM.Simulated.run_new`). So what holds of every run holds of every exchange, such as that
the tables hold only numbers that were issued and not answered (`ExchangeM.Simulated.waiting_new`).
-/

namespace AnalyzerClient.ExchangeM

open AnalyzerClient.Protocol (Error Message Request)
open Traffic

variable {α β : Type} {s s' : Traffic} {x x' : Exchange} {server : Nat}

/-- What is done to an exchange can be done to the traffic, when nobody uses the client before it
and after it. -/
def Simulated (m : ExchangeM α) : Prop :=
  ∀ {x x' : Exchange} {a : α}, m x = some (a, x') → ∀ {s : Traffic}, s.Tracks x → s.Free →
    ∃ actions s', Run s actions s' ∧ s'.Tracks x' ∧ s'.Free

theorem simulated_pure (a : α) : Simulated (pure a) := by
  intro x x' _ hrun s h hfree
  cases hrun
  exact ⟨[], s, .done s, h, hfree⟩

theorem Simulated.bind {m : ExchangeM α} {f : α → ExchangeM β} (hm : Simulated m)
    (hf : ∀ a, Simulated (f a)) : Simulated (m >>= f) := by
  intro x x' b hrun s h hfree
  obtain ⟨a, x₁, hfirst, hrest⟩ := bind_eq_some.mp hrun
  obtain ⟨actions, s₁, hrun₁, h₁, hfree₁⟩ := hm hfirst h hfree
  obtain ⟨actions', s', hrun', h', hfree'⟩ := hf a hrest h₁ hfree₁
  exact ⟨_, s', hrun₁.append hrun', h', hfree'⟩

theorem simulated_get : Simulated get := by
  intro x x' _ hrun s h hfree
  cases hrun
  exact ⟨[], s, .done s, h, hfree⟩

/-! ## Requests and notifications -/

theorem not_live_append {calls : List Call} {call : Call}
    (h : ∀ call ∈ calls, call.stage.live = false) (hcall : call.stage.live = false) :
    ∀ call' ∈ calls ++ [call], call'.stage.live = false := by
  intro call' hmem
  rcases List.mem_append.mp hmem with hmem | hmem
  · exact h call' hmem
  · exact List.mem_singleton.mp hmem ▸ hcall

theorem simulated_request (r : Request α) : Simulated (request r) := by
  intro x x' result hrun s h hfree
  cases htransport : x.client.transport with
  | none =>
    have hunsent : request r x = some (.error .notRunning, x) := by
      rw [request, bind_eq_some]
      exact ⟨.error .notRunning, x, by rw [send_eq, htransport], rfl⟩
    cases hunsent.symm.trans hrun
    have hstep := Step.turnAway r.method r.params hfree.1 ((congrArg _ h.client).trans htransport)
    exact ⟨_, s, .step hstep (.done s), h, hfree⟩
  | some server =>
    have hbegin := Step.begin r.method r.params hfree.1 ((congrArg _ h.client).trans htransport)
    obtain ⟨actions, s', raw, hrequest, h', howner, hcalls, -⟩ :=
      run_request hrun htransport h s.owner
    refine ⟨_, s', .step hbegin hrequest, h', howner.trans hfree.1, ?_⟩
    rw [hcalls]
    exact not_live_append hfree.2 rfl

theorem simulated_notify (method : String) (params : Json) : Simulated (notify method params) := by
  intro x x' written hrun s h hfree
  obtain ⟨hleads, hserver⟩ := leads_notify hrun
  cases written with
  | error e =>
    obtain ⟨actions, s', hrun', h', hfree'⟩ := hleads.free h hfree
    exact ⟨_, s', .step (.notifyFails method params hfree.1) hrun', h', hfree'⟩
  | ok _ =>
    obtain ⟨server, htransport⟩ := hserver rfl
    have hnotify := Step.notify method params hfree.1 ((congrArg _ h.client).trans htransport)
    have h₁ : Tracks { s with parcels := s.parcels ++
        [⟨.notifier, server, Message.notificationJson method params⟩] } x := h.same rfl rfl
    obtain ⟨actions, s', hrun', h', hfree'⟩ := hleads.free h₁ ⟨hfree.1, hfree.2⟩
    exact ⟨_, s', .step hnotify hrun', h', hfree'⟩

theorem simulated_openDocument (uri : Uri) (version : Int) (text : String) :
    Simulated (openDocument uri version text) :=
  simulated_get.bind fun _ => simulated_notify _ _

/-! ## Starting a server -/

/-- How far the owner got with a server whose introduction came to an end. -/
def Introduced (s : Traffic) : Except Error Unit → Prop
  | .ok () => s.owner = .acknowledged
  | .error _ => s.owner = .introduced ∨
    ∃ k, s.owner = .introducing k ∧ ∃ call, s.calls[k]? = some call ∧ call.stage.live = false

/-- The introduction of a server is acknowledged. -/
theorem run_acknowledge {result : Except Error Unit}
    (hrun : notify Protocol.initializedMethod (.object []) x = some (result, x'))
    (h : s.Tracks x) (howner : s.owner = .introduced) :
    ∃ actions s', Run s actions s' ∧ s'.Tracks x' ∧ s'.calls = s.calls ∧ Introduced s' result := by
  obtain ⟨hleads, hserver⟩ := leads_notify hrun
  cases result with
  | error e =>
    obtain ⟨actions, s', hrun', h', hcalls', howner'⟩ := hleads s h
    exact ⟨actions, s', hrun', h', hcalls', .inl (howner'.trans howner)⟩
  | ok _ =>
    obtain ⟨server, htransport⟩ := hserver rfl
    have hstep := OwnerStep.acknowledge howner ((congrArg _ h.client).trans htransport)
    have h₁ : Tracks { s with
        owner := .acknowledged
        parcels := s.parcels ++ [⟨.notifier, server,
          Message.notificationJson Protocol.initializedMethod (.object [])⟩] } x := h.same rfl rfl
    obtain ⟨actions, s', hrun', h', hcalls', howner'⟩ := hleads _ h₁
    exact ⟨_, s', .step (.owner hstep) hrun', h', hcalls', howner'⟩

/-- A server is introduced, or its introduction fails. -/
theorem run_introduce {root : String} {result : Except Error Unit}
    (hrun : introduce root x = some (result, x')) (hserver : x.client.transport = some server)
    (h : s.Tracks x) (howner : s.owner = .attached)
    (hcalls : ∀ call ∈ s.calls, call.stage.live = false) :
    ∃ actions s', Run s actions s' ∧ s'.Tracks x' ∧
      (∀ call ∈ s'.calls, call.stage.live = false) ∧ Introduced s' result := by
  rw [introduce, get_bind_run] at hrun
  dsimp only at hrun
  rw [bind_eq_some] at hrun
  obtain ⟨answer, x₁, hrequest, hrun⟩ := hrun
  have hbegin := OwnerStep.introduce x.machine.processId (Uri.ofPath? root) howner
    ((congrArg _ h.client).trans hserver)
  rw [Traffic.introduction, h.client] at hbegin
  obtain ⟨r, hr⟩ : ∃ r, r = Request.connect x.machine.processId (Uri.ofPath? root)
      x.client.config.initializationOptions x.client.config.trace := ⟨_, rfl⟩
  rw [← hr] at hbegin hrequest
  obtain ⟨actions, s₁, raw, hrun₁, h₁, howner₁, hcalls₁, hanswer⟩ :=
    run_request hrequest hserver h (.introducing s.calls.length)
  have hintroduce := Run.step (.owner hbegin) hrun₁
  have hended : ∀ call ∈ s₁.calls, call.stage.live = false := by
    rw [hcalls₁]
    exact not_live_append hcalls rfl
  have hk : s₁.calls[s.calls.length]? =
      some ⟨x.client.nextId, r.method, r.params, server, .ended raw⟩ := by
    rw [hcalls₁]
    exact List.getElem?_concat_length
  cases answer with
  | error e =>
    cases hrun
    exact ⟨_, s₁, hintroduce, h₁, hended, .inr ⟨_, howner₁, _, hk, rfl⟩⟩
  | ok info =>
    obtain ⟨value, rfl, hdecode⟩ := decodeResult_eq_ok hanswer.symm
    rw [hr] at hdecode
    have haccept := OwnerStep.accept howner₁ hk rfl hdecode
    have hnotify : notify Protocol.initializedMethod (.object []) { x₁ with
        client := info.elim x₁.client (x₁.client.note <| greeting ·) } = some (result, x') := by
      cases info <;> exact hrun
    have hservers : x₁.client.SameServers (info.elim x₁.client (x₁.client.note <| greeting ·)) := by
      cases info <;> exact ⟨rfl, rfl⟩
    rw [h₁.client] at haccept
    have h₂ : Tracks { s₁ with
        client := info.elim x₁.client (x₁.client.note <| greeting ·)
        owner := .introduced } _ := (h₁.withClient hservers).same rfl rfl
    obtain ⟨actions', s', hrun', h', hcalls', hintroduced⟩ := run_acknowledge hnotify h₂ rfl
    exact ⟨_, s', hintroduce.append (.step (.owner haccept) hrun'), h', hcalls' ▸ hended,
      hintroduced⟩

/-- A server that sends something leads to what its reader can read. -/
theorem leads_updatePeer {f : Peer → Peer} (hf : ∀ {p : Peer}, p.Sound → p.Sends (f p))
    (x : Exchange) (server : Nat) :
    Leads x (x.updateLink server fun l => { l with peer := f l.peer }) := by
  intro s h
  cases hlink : x.links[server]? with
  | none =>
    rw [Exchange.updateLink, List.modify_eq_self (List.getElem?_eq_none_iff.mp hlink)]
    exact Leads.refl x s h
  | some link =>
    obtain ⟨st, hst, ht⟩ := h.stream_of_link hlink
    obtain ⟨actions, st', hrun, ht'⟩ := run_of_sends hst ht (hf ht.sound)
    have hset := h.set (c := x.client)
      (f := fun l => { l with peer := f l.peer }) hlink ht' ⟨rfl, rfl⟩
    exact ⟨actions, _, hrun, hset.same h.client rfl, rfl, rfl⟩

theorem leads_dismissed (x : Exchange) : Leads x { x with links := x.dismissed } := by
  rw [Exchange.dismissed]
  split
  · exact .refl x
  · exact leads_updatePeer Peer.sends_dismiss x _

/-- A server that was started has a stream of its own. -/
theorem tracks_attach (h : s.Tracks x) (spec : ProcessSpec) (script : ServerScript)
    (scripts : List ServerScript) (owner : Owner) :
    Tracks { s with client := x.client.attach, streams := s.streams ++ [.fresh], owner := owner }
      { x with
        client := x.client.attach
        links := x.links ++ [⟨.started spec script, true⟩]
        scripts := scripts } where
  client := rfl
  length := by rw [List.length_append, List.length_append, h.length]; rfl
  stream := by
    intro server st link hst hlink
    rw [List.getElem?_append] at hst hlink
    rw [h.length] at hst
    split at hst
    case isTrue hlt =>
      rw [if_pos hlt] at hlink
      exact h.stream hst hlink
    case isFalse hlt =>
      rw [if_neg hlt] at hlink
      have hserver := (List.getElem?_eq_some_iff.mp hst).1
      rw [List.length_singleton, Nat.lt_one_iff] at hserver
      rw [hserver] at hst hlink
      cases hst
      cases hlink
      exact ⟨rfl, rfl, fun _ => rfl, fun _ => rfl⟩
  attached := by
    rintro _ ⟨⟩
    rw [List.length_append, h.readers]
    exact Nat.lt_succ_self _
  readers := by rw [List.length_append, ← h.readers]; exact List.length_append

/-- The introduction fails, and so does the start. -/
theorem run_fail {e : Error} (h : s.Tracks x) (hcalls : ∀ call ∈ s.calls, call.stage.live = false)
    (hintroduced : Introduced s (.error e)) : ∃ s', Run s [.owner .fail] s' ∧
      s'.Tracks (x.updateClient (·.setState .failed)) ∧ s'.Free := by
  have hfail := OwnerStep.fail hintroduced
  rw [h.client] at hfail
  exact ⟨_, .step (.owner hfail) (.done _),
    (h.withClient (c := x.client.setState .failed) ⟨rfl, rfl⟩).same rfl rfl, rfl, hcalls⟩

/-- The introduction ends, and the server counts as running. -/
theorem run_mark {c : Client} (h : s.Tracks x) (hcalls : ∀ call ∈ s.calls, call.stage.live = false)
    (hintroduced : Introduced s (.ok ())) (hmark : x.client.markRunning = .ok c) :
    ∃ actions s', Run s actions s' ∧
      s'.Tracks (x.updateClient fun _ => c.emit (.started c.config.name)) ∧ s'.Free := by
  have hstep := OwnerStep.mark hintroduced (h.client ▸ hmark)
  have htell := OwnerStep.tellStarted (s := { s with client := c, owner := .marked }) rfl
  have hservers : x.client.SameServers c := by
    rw [Client.markRunning] at hmark
    split at hmark <;> cases hmark
    exact ⟨rfl, rfl⟩
  have h' := h.withClient (c := c.emit (.started c.config.name)) (hservers.trans ⟨rfl, rfl⟩)
  exact ⟨_, _, .step (.owner hstep) (.step (.owner htell) (.done _)), h'.same rfl rfl, rfl, hcalls⟩

theorem simulated_start (root : String) : Simulated (start root) := by
  intro x x' result hrun s h hfree
  rw [start, updateClient_bind_run, get_bind_run] at hrun
  have hbegin := OwnerStep.beginStart hfree
  rw [h.client] at hbegin
  have h₁ : Tracks { s with client := x.client.beginStart, owner := .tabled }
      (x.updateClient (·.beginStart)) :=
    (h.withClient (c := x.client.beginStart) ⟨rfl, rfl⟩).same rfl rfl
  rw [Exchange.spawn] at hrun
  dsimp only at hrun
  split at hrun
  next cause hcheck =>
    have hfail := OwnerStep.spawnFails (s := { s with
      client := x.client.beginStart, owner := .tabled }) rfl
    rw [set_bind_run] at hrun
    cases hrun
    have h₂ := (h₁.withClient (c := x.client.beginStart.setState .failed) ⟨rfl, rfl⟩)
    exact ⟨_, _, .step (.owner hbegin) (.step (.owner hfail) (.done _)), h₂.same rfl rfl,
      rfl, hfree.2⟩
  next hcheck =>
    obtain ⟨dismissing, s₁, hrun₁, h₁, hcalls₁, howner₁⟩ := leads_dismissed _ _ h₁
    have hattach := OwnerStep.attach (s := s₁) howner₁
    rw [h₁.client] at hattach
    rw [set_bind_run] at hrun
    dsimp only at hrun
    rw [bind_eq_some] at hrun
    obtain ⟨introduced, x₁, hintroduce, hrun⟩ := hrun
    have h₂ := tracks_attach h₁
      (Exchange.serverSpec (x.updateClient (·.beginStart)).client.config root)
      (x.scripts.head?.getD []) (x.scripts.drop 1) .attached
    obtain ⟨actions, s₃, hrun₃, h₃, hcalls₃, hintroduced⟩ :=
      run_introduce hintroduce rfl h₂ rfl (hcalls₁ ▸ hfree.2)
    have hattached := Run.step (.owner hbegin) (hrun₁.append (.step (.owner hattach) hrun₃))
    cases introduced with
    | error e =>
      cases hrun
      obtain ⟨s₄, hrun₄, h₄, hfree₄⟩ := run_fail h₃ hcalls₃ hintroduced
      exact ⟨_, s₄, hattached.append hrun₄, h₄, hfree₄⟩
    | ok _ =>
      dsimp only at hrun
      rw [get_bind_run] at hrun
      cases hmark : x₁.client.markRunning with
      | error e =>
        rw [hmark] at hrun
        cases hrun
        have hfails := OwnerStep.markFails hintroduced (h₃.client ▸ hmark)
        exact ⟨_, _, hattached.append (.step (.owner hfails) (.done _)), h₃.same rfl rfl, rfl,
          hcalls₃⟩
      | ok c =>
        rw [hmark] at hrun
        cases hrun
        obtain ⟨actions', s₄, hrun₄, h₄, hfree₄⟩ := run_mark h₃ hcalls₃ hintroduced hmark
        exact ⟨_, s₄, hattached.append hrun₄, h₄, hfree₄⟩

/-! ## Stopping a server -/

theorem tracks_stopAllReaders (h : s.Tracks x) : s.Tracks x.stopAllReaders where
  client := h.client
  length := by rw [Exchange.stopAllReaders, List.length_map, h.length]
  stream := by
    intro server st link hst hlink
    rw [Exchange.stopAllReaders, List.getElem?_map, Option.map_eq_some_iff] at hlink
    obtain ⟨link, hlink, rfl⟩ := hlink
    have ht := h.stream hst hlink
    exact ⟨ht.octets, ht.ended, nofun, ht.sound⟩
  attached hserver := by
    rw [Exchange.stopAllReaders, List.length_map]
    exact h.attached hserver
  readers := by
    rw [Exchange.stopAllReaders, List.length_map]
    exact h.readers

theorem leads_killHeld (x : Exchange) : Leads x x.killHeld := by
  rw [Exchange.killHeld]
  split
  · exact .refl x
  · exact leads_updatePeer Peer.sends_kill x _

/-- The server is told to exit. -/
theorem run_sayExit {written : Except Error Unit}
    (hrun : notify Protocol.exitMethod .null x = some (written, x')) (h : s.Tracks x)
    (howner : s.owner = .parted) :
    ∃ actions s', Run s actions s' ∧ s'.Tracks x' ∧ s'.calls = s.calls ∧ s'.owner = .leaving := by
  obtain ⟨hleads, hserver⟩ := leads_notify hrun
  cases written with
  | error e =>
    have hstep := OwnerStep.exitFails howner
    have h₁ : Tracks { s with owner := .leaving } x := h.same rfl rfl
    obtain ⟨actions, s', hrun', h', hcalls', howner'⟩ := hleads _ h₁
    exact ⟨_, s', .step (.owner hstep) hrun', h', hcalls', howner'⟩
  | ok _ =>
    obtain ⟨server, htransport⟩ := hserver rfl
    have hstep := OwnerStep.sayExit howner ((congrArg _ h.client).trans htransport)
    have h₁ : Tracks { s with
        owner := .leaving
        parcels := s.parcels ++ [⟨.notifier, server,
          Message.notificationJson Protocol.exitMethod .null⟩] } x := h.same rfl rfl
    obtain ⟨actions, s', hrun', h', hcalls', howner'⟩ := hleads _ h₁
    exact ⟨_, s', .step (.owner hstep) hrun', h', hcalls', howner'⟩

/-- The server is asked to shut down, and is told to exit. -/
theorem run_sayGoodbye (hrun : sayGoodbye x = some ((), x'))
    (hserver : x.client.transport = some server) (h : s.Tracks x) (howner : s.owner = .stopping)
    (hcalls : ∀ call ∈ s.calls, call.stage.live = false) :
    ∃ actions s', Run s actions s' ∧ s'.Tracks x' ∧
      (∀ call ∈ s'.calls, call.stage.live = false) ∧ s'.owner = .leaving := by
  rw [sayGoodbye, bind_eq_some] at hrun
  obtain ⟨answer, x₁, hrequest, hrun⟩ := hrun
  have hpart := OwnerStep.part howner ((congrArg _ h.client).trans hserver)
  obtain ⟨actions, s₁, raw, hrun₁, h₁, howner₁, hcalls₁, hanswer⟩ :=
    run_request hrequest hserver h (.parting s.calls.length)
  have hended : ∀ call ∈ s₁.calls, call.stage.live = false := by
    rw [hcalls₁]
    exact not_live_append hcalls rfl
  have hk : s₁.calls[s.calls.length]? = some ⟨x.client.nextId, Request.shutdown.method,
      Request.shutdown.params, server, .ended raw⟩ := by
    rw [hcalls₁]
    exact List.getElem?_concat_length
  have hhear := OwnerStep.hearGoodbye howner₁ hk rfl
  rw [← hanswer, h₁.client] at hhear
  obtain ⟨c, hhear, hservers, hexit⟩ : ∃ c,
      OwnerStep s₁ .hearGoodbye { s₁ with client := c, owner := .parted } ∧
      x₁.client.SameServers c ∧
      (notify Protocol.exitMethod .null >>= fun _ => pure ()) { x₁ with client := c } =
        some ((), x') := by
    cases answer with
    | error e => exact ⟨_, hhear, ⟨rfl, rfl⟩, hrun⟩
    | ok _ => exact ⟨_, hhear, ⟨rfl, rfl⟩, hrun⟩
  obtain ⟨written, x₂, hnotify, hdone⟩ := bind_eq_some.mp hexit
  cases hdone
  have h₂ : Tracks { s₁ with client := c, owner := .parted } { x₁ with client := c } :=
    (h₁.withClient hservers).same rfl rfl
  obtain ⟨actions', s', hrun', h', hcalls', howner'⟩ := run_sayExit hnotify h₂ rfl
  exact ⟨_, s', (Run.step (.owner hpart) hrun₁).append (.step (.owner hhear) hrun'), h',
    hcalls' ▸ hended, howner'⟩

/-- The client lets go of its server, which is ended, and of the readers. -/
theorem run_leave (h : s.Tracks x) (howner : s.owner = .leaving)
    (hcalls : ∀ call ∈ s.calls, call.stage.live = false) : ∃ actions s', Run s actions s' ∧
      s'.Tracks (x.killHeld.stopAllReaders.updateClient fun c =>
        (c.detach.setState .stopped).emit (.stopped c.config.name)) ∧ s'.Free := by
  obtain ⟨actions, s₁, hrun₁, h₁, hcalls₁, howner₁⟩ := leads_killHeld x s h
  have h₂ := tracks_stopAllReaders h₁
  have hdetach := OwnerStep.detach (howner₁.trans howner)
  rw [h₂.client] at hdetach
  have hhalt := OwnerStep.halt (s := { s₁ with
    client := x.killHeld.stopAllReaders.client.detach
    streams := s₁.streams.map fun st => { st with doomed := true }
    owner := .detached }) rfl
  have htell := OwnerStep.tellStopped (s := { s₁ with
    client := x.killHeld.stopAllReaders.client.detach.setState .stopped
    streams := s₁.streams.map fun st => { st with doomed := true }
    owner := .halted }) rfl
  refine ⟨_, _, hrun₁.append (.step (.owner hdetach) (.step (.owner hhalt)
    (.step (.owner htell) (.done _)))), ⟨rfl, ?_, ?_, nofun, h₂.readers⟩, rfl, hcalls₁ ▸ hcalls⟩
  · rw [List.length_map]
    exact h₂.length
  · intro server st link hst hlink
    rw [List.getElem?_map, Option.map_eq_some_iff] at hst
    obtain ⟨st, hst, rfl⟩ := hst
    have ht := h₂.stream hst hlink
    exact ⟨ht.octets, ht.ended, ht.stage, ht.sound⟩

theorem simulated_stop : Simulated stop := by
  intro x x' _ hrun s h hfree
  rw [stop, updateClient_bind_run, get_bind_run] at hrun
  have hbegin := OwnerStep.beginStop hfree
  rw [h.client] at hbegin
  have h₁ : Tracks { s with client := x.client.setState .shuttingDown, owner := .stopping }
      (x.updateClient (·.setState .shuttingDown)) :=
    (h.withClient (c := x.client.setState .shuttingDown) ⟨rfl, rfl⟩).same rfl rfl
  obtain ⟨x₁, hgoodbye, hleave⟩ : ∃ x₁, (∃ actions s', Run { s with
        client := x.client.setState .shuttingDown, owner := .stopping } actions s' ∧
      s'.Tracks x₁ ∧ (∀ call ∈ s'.calls, call.stage.live = false) ∧ s'.owner = .leaving) ∧
      x' = x₁.killHeld.stopAllReaders.updateClient fun c =>
        (c.detach.setState .stopped).emit (.stopped c.config.name) := by
    cases htransport : (x.updateClient (·.setState .shuttingDown)).client.transport with
    | none =>
      rw [htransport] at hrun
      cases hrun
      have hskip := OwnerStep.skip (s := { s with
        client := x.client.setState .shuttingDown, owner := .stopping }) rfl htransport
      exact ⟨_, ⟨_, _, .step (.owner hskip) (.done _), h₁.same rfl rfl, hfree.2, rfl⟩, rfl⟩
    | some server =>
      rw [htransport, if_pos Option.isSome_some, bind_eq_some] at hrun
      obtain ⟨_, x₁, hgoodbye, hrun⟩ := hrun
      cases hrun
      exact ⟨x₁, run_sayGoodbye hgoodbye htransport h₁ rfl hfree.2, rfl⟩
  obtain ⟨actions, s₁, hrun₁, hs₁, hcalls₁, howner₁⟩ := hgoodbye
  obtain ⟨actions', s', hrun', h', hfree'⟩ := run_leave hs₁ howner₁ hcalls₁
  subst hleave
  exact ⟨_, s', (Run.step (.owner hbegin) hrun₁).append hrun', h', hfree'⟩

/-! ## Requests that are sent together -/

/-- The requests that were made for what was sent: one for each, but for those that were turned
away. -/
inductive Sent : List (String × Except Error Int) → List Call → Prop
  | nil : Sent [] []
  | turnedAway {method : String} {e : Error} {sent : List (String × Except Error Int)}
      {calls : List Call} (rest : Sent sent calls) : Sent ((method, .error e) :: sent) calls
  | made {method : String} {result : Except Error Int} {call : Call}
      {sent : List (String × Except Error Int)} {calls : List Call} (name : call.method = method)
      (id : ∀ id, result = .ok id → id = call.id) (stage : call.stage = .ofSent result)
      (rest : Sent sent calls) : Sent ((method, result) :: sent) (call :: calls)

theorem run_sends {requests : List (String × Json)} {sent : List (String × Except Error Int)}
    (hrun : (requests.mapM fun (method, params) => return (method, ← send method params) :
      ExchangeM (List (String × Except Error Int))) x = some (sent, x'))
    (h : s.Tracks x) (howner : s.owner = .idle) :
    ∃ actions s' calls, Run s actions s' ∧ s'.Tracks x' ∧ s'.owner = .idle ∧
      s'.calls = s.calls ++ calls ∧ Sent sent calls := by
  induction requests generalizing x s sent with
  | nil =>
    cases hrun
    exact ⟨[], s, [], .done s, h, howner, (List.append_nil _).symm, .nil⟩
  | cons request requests ih =>
    obtain ⟨method, params⟩ := request
    rw [List.mapM_cons, bind_eq_some] at hrun
    obtain ⟨first, x₁, hfirst, hrun⟩ := hrun
    obtain ⟨result, x₂, hsend, hfirst⟩ := bind_eq_some.mp hfirst
    cases hfirst
    obtain ⟨rest, x₃, hrest, hdone⟩ := bind_eq_some.mp hrun
    cases hdone
    rw [send_eq, Option.some.injEq] at hsend
    cases htransport : x.client.transport with
    | none =>
      rw [htransport] at hsend
      cases hsend
      have hstep := Step.turnAway method params howner ((congrArg _ h.client).trans htransport)
      obtain ⟨actions, s', calls, hrun', h', howner', hcalls', hsent⟩ := ih hrest h howner
      exact ⟨_, s', calls, .step hstep hrun', h', howner', hcalls', .turnedAway hsent⟩
    | some server =>
      rw [htransport] at hsend
      have hstep := Step.begin method params howner ((congrArg _ h.client).trans htransport)
      obtain ⟨actions, s₁, hrun₁, h₁, howner₁, hcalls₁, hid⟩ :=
        run_send hsend htransport h s.owner
      obtain ⟨actions', s', calls, hrun', h', howner', hcalls', hsent⟩ :=
        ih hrest h₁ (howner₁.trans howner)
      refine ⟨_, s', ⟨x.client.nextId, method, params, server, .ofSent result⟩ :: calls,
        .step hstep (hrun₁.append hrun'), h', howner', ?_, .made rfl hid rfl hsent⟩
      rw [hcalls', hcalls₁, List.append_assoc]
      rfl

theorem run_awaits {sent : List (String × Except Error Int)} {calls front : List Call}
    {results : List (Except Error Json)} (hsent : Sent sent calls)
    (hrun : (sent.mapM fun (method, sent) => match sent with
      | .error e => return .error e
      | .ok id => await method id : ExchangeM (List (Except Error Json))) x = some (results, x'))
    (h : s.Tracks x) (howner : s.owner = .idle) (hcalls : s.calls = front ++ calls)
    (hfront : ∀ call ∈ front, call.stage.live = false) :
    ∃ actions s', Run s actions s' ∧ s'.Tracks x' ∧ s'.Free := by
  induction hsent generalizing x s front results with
  | nil =>
    cases hrun
    rw [List.append_nil] at hcalls
    exact ⟨[], s, .done s, h, howner, hcalls ▸ hfront⟩
  | turnedAway rest ih =>
    rw [List.mapM_cons, bind_eq_some] at hrun
    obtain ⟨first, x₁, hfirst, hrun⟩ := hrun
    cases hfirst
    obtain ⟨others, x₂, hothers, hdone⟩ := bind_eq_some.mp hrun
    cases hdone
    exact ih hothers h howner hcalls hfront
  | @made method result call sent calls name number stage rest ih =>
    rw [List.mapM_cons, bind_eq_some] at hrun
    obtain ⟨first, x₁, hfirst, hrun⟩ := hrun
    obtain ⟨others, x₂, hothers, hdone⟩ := bind_eq_some.mp hrun
    cases hdone
    cases result with
    | error e =>
      cases hfirst
      rw [List.append_cons] at hcalls
      exact ih hothers h howner hcalls (not_live_append hfront (by rw [stage]; rfl))
    | ok id =>
      obtain ⟨houtcome, rfl⟩ := await_eq_some hfirst
      obtain rfl := name
      obtain rfl := number id rfl
      have hk : s.calls[front.length]? = some call := by
        rw [hcalls, List.getElem?_append_right (Nat.le_refl _), Nat.sub_self,
          List.getElem?_cons_zero]
      have hset : s.calls.set front.length { call with stage := .ended first } =
          (front ++ [{ call with stage := .ended first }]) ++ calls := by
        rw [hcalls, List.append_cons, List.set_append_left _ _ (by simp), set_concat]
      rw [← h.client] at houtcome
      have hreceive := Step.call hk (.receive stage houtcome)
      have h₁ : Tracks { s with
          calls := s.calls.set front.length { call with stage := .ended first }
          parcels := s.parcels ++ [] } x₁ := h.same rfl rfl
      obtain ⟨actions, s', hrun', h', hfree'⟩ := ih hothers h₁ howner hset
        (not_live_append hfront rfl)
      exact ⟨_, s', .step hreceive hrun', h', hfree'⟩

theorem simulated_requestAll (requests : List (String × Json)) :
    Simulated (requestAll requests) := by
  intro x x' results hrun s h hfree
  rw [requestAll, bind_eq_some] at hrun
  obtain ⟨sent, x₁, hsends, hrun⟩ := hrun
  rw [settle_bind_run] at hrun
  obtain ⟨actions₁, s₁, calls, hrun₁, h₁, howner₁, hcalls₁, hsent⟩ := run_sends hsends h hfree.1
  obtain ⟨actions₂, s₂, hrun₂, h₂, hcalls₂, howner₂⟩ := leads_settle x₁ s₁ h₁
  obtain ⟨actions₃, s', hrun₃, h', hfree'⟩ := run_awaits hsent hrun h₂ (howner₂.trans howner₁)
    (hcalls₂.trans hcalls₁) hfree.2
  exact ⟨_, s', hrun₁.append (hrun₂.append hrun₃), h', hfree'⟩

/-! ## Whole runs -/

/-- Whatever is done to an exchange is a run of the traffic, from the beginning. -/
theorem Simulated.run_new {m : ExchangeM α} {config : Server.Config} {scripts : List ServerScript}
    {machine : Machine} {a : α} (h : Simulated m)
    (hrun : m (Exchange.new config scripts machine) = some (a, x')) :
    ∃ actions s, Run (.initial config) actions s ∧ s.client = x'.client := by
  have hinitial : Tracks (.initial config) (Exchange.new config scripts machine) :=
    ⟨rfl, rfl, nofun, nofun, rfl⟩
  obtain ⟨actions, s, hrun', h', -⟩ := h hrun hinitial ⟨rfl, nofun⟩
  exact ⟨actions, s, hrun', h'.client⟩

/-- A number that stands in a table of the client was issued, and has no reply. -/
theorem Simulated.waiting_new {m : ExchangeM α} {config : Server.Config}
    {scripts : List ServerScript} {machine : Machine} {a : α} {t : Nat} {id : Int}
    (h : Simulated m) (hrun : m (Exchange.new config scripts machine) = some (a, x'))
    (hw : x'.client.isWaitingIn t id = true) :
    (0 < id ∧ id < x'.client.nextId) ∧ x'.client.replyTo? id = none := by
  obtain ⟨actions, s, hrun', hclient⟩ := h.run_new hrun
  have hledger := hrun'.ledger (.initial config)
  rw [← hclient] at hw ⊢
  obtain ⟨k, call, hk, rfl, -⟩ := hledger.waiting hw
  have hlt : k < s.calls.length := (List.getElem?_eq_some_iff.mp hk).1
  rw [hledger.nextId, number]
  exact ⟨by omega, hledger.unanswered hw⟩

end AnalyzerClient.ExchangeM
