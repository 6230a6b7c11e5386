import AnalyzerClient.Proofs.Client.Exchange
import AnalyzerClient.Proofs.Client.Wiring

/-!
# Requests between starts

Between the calls of its owner a client that has a transport registers requests in the table that
the reader of the same server resolves and closes, if and only if the latest start could start the
process of its server (`Run.coherence`). After a start that could not, requests are written to the
old server and stand in a table that nobody resolves.
-/

namespace AnalyzerClient

namespace ExchangeM

variable {x : Exchange}

theorem send_of_transport_none (h : x.client.transport = none) (method : String) (params : Json) :
    send method params x = some (.error .notRunning, x) := by
  rw [send_eq, h]

theorem send_of_current_shut {server : Nat} (h : x.client.transport = some server)
    (hshut : x.client.current = .shut) (method : String) (params : Json) :
    send method params x = some (.error .notRunning, x.issue) := by
  have hrefused : x.issue.client.register x.client.nextId = .error .notRunning := by
    rw [Client.register, show x.issue.client.current = .shut from hshut]
    rfl
  rw [send_eq, h]
  dsimp only
  rw [Exchange.dispatch, hrefused]

end ExchangeM

namespace Traffic

variable {config : Server.Config} {s s' : Traffic} {actions later : List Action}
  {n i k t server : Nat} {st : Stream} {call : Call} {spawned : Option Bool}

namespace Wired

theorem getLast?_readers (H : Wired s spawned) (hserver : s.client.transport = some server) :
    s.client.readers.getLast? = some (s.client.tableOf server) := by
  obtain ⟨hlast, -⟩ := H.attached hserver
  have hlt : server < s.client.readers.length := by omega
  rw [List.getLast?_eq_getElem?, Client.tableOf, List.getD_eq_getElem?_getD, ← hlast,
    Nat.add_sub_cancel, List.getElem?_eq_getElem hlt]
  rfl

theorem tableOf_lt (H : Wired s spawned) (hspawned : spawned ≠ some true)
    (hi : i < s.client.readers.length) : s.client.tableOf i < s.client.table :=
  H.fresh (.inr hspawned) _ (Client.tableOf_mem hi)

theorem table_eq_iff (H : Wired s spawned) (hidle : s.owner = .idle)
    (hserver : s.client.transport = some server) :
    s.client.table = s.client.tableOf server ↔ spawned = some true := by
  refine ⟨fun htable => ?_, fun hspawned => ?_⟩
  · by_contra hspawned
    have hlast := (H.attached hserver).1
    have hlt : server < s.client.readers.length := Nat.lt_of_succ_le (Nat.le_of_eq hlast)
    exact Nat.ne_of_gt (H.tableOf_lt hspawned hlt) htable
  · have hjoined := H.joined (by rw [hidle]; nofun) hspawned
    exact Option.some.inj (hjoined.symm.trans (H.getLast?_readers hserver))

theorem current_of_closed (H : Wired s spawned) (htable : s.client.table = s.client.tableOf server)
    (hst : s.streams[server]? = some st) (hclosed : st.stage.hasClosed = true) :
    s.client.current = .shut := by
  rw [Client.current, htable, List.getD_eq_getElem?_getD, H.closed hst hclosed]
  rfl

/-- A request that awaits a response stands in the table of the server to which it was written, and
the reader of this server serves it, unless it broke down. -/
theorem serves_of_isWaitingIn (H : Wired s spawned) (hs : Started s n) (hledger : Ledger s)
    (hserver : s.client.transport = some server)
    (htable : s.client.table = s.client.tableOf server) (hk : s.calls[k]? = some call)
    (hlive : call.stage.live = true) (hw : s.client.isWaitingIn t (number k) = true) :
    t = s.client.tableOf server ∧
      ∃ st, s.streams[server]? = some st ∧ (st.stage.serves = true ∨ st.stage = .broken) := by
  have ht := hledger.present hw hk hlive
  have hlt : server < s.streams.length := by
    have hlast := (H.attached hserver).1
    rw [hs.streams]
    omega
  have hst := List.getElem?_eq_getElem hlt
  refine ⟨ht.trans htable, _, hst, ?_⟩
  have hopen : (s.streams[server]).stage.hasClosed ≠ true := fun hclosed => by
    rw [hledger.not_isWaitingIn (H.current_of_closed htable hst hclosed) hk hlive] at hw
    cases hw
  have hrunning : (s.streams[server]).stage ≠ .aborted := fun haborted => by
    have halive := H.alive hserver hst
    rw [H.doomed hst haborted] at halive
    cases halive
  revert hopen hrunning
  cases (s.streams[server]).stage with
  | reading | answering | left => exact fun _ _ => .inl rfl
  | broken => exact fun _ _ => .inr rfl
  | closed | condemned | failed | finished => exact fun hopen => absurd rfl hopen
  | aborted => exact fun _ hrunning => absurd rfl hrunning

end Wired

/-- Every request fails at once because there is no server, and changes nothing. -/
structure TurnsAway (s : Traffic) : Prop where
  turned : ∀ method params, Step s (.turnAway method params) s
  unmade : ∀ method params s', ¬ Step s (.begin method params) s'
  unsent : ∀ (x : Exchange) method params, x.client = s.client →
    ExchangeM.send method params x = some (.error .notRunning, x)

theorem TurnsAway.of_transport_none (hidle : s.owner = .idle) (hnone : s.client.transport = none) :
    TurnsAway s := by
  refine ⟨fun method params => .turnAway method params hidle hnone, ?_, ?_⟩
  · intro method params s' hbegin
    cases hbegin with
    | begin _ _ _ htransport => rw [hnone] at htransport; cases htransport
  · intro x method params hx
    exact ExchangeM.send_of_transport_none (hx ▸ hnone) method params

/-- What becomes of requests that are made behind a closed table. -/
theorem Run.refuses (h : Run (.initial config) actions s) (hshut : s.client.current = .shut)
    (hlater : Run s later s') (hnone : ∀ a ∈ later, a.isStart = false) :
    s'.client.current = .shut ∧ (∀ k, s.calls.length ≤ k → Refused s' k) ∧
      ∀ (k : Nat) (call : Call), s'.calls[k]? = some call → call.stage.live = true →
        EndsAlone s' k call 2 := by
  have hshut' := hlater.current_closed hnone hshut
  refine ⟨hshut', ?_, fun k call => ((h.append hlater).ledger (.initial config)).ends_alone hshut'⟩
  intro k hk
  refine hlater.refused hnone hshut ⟨fun call hcall => ?_, fun p hp hauthor => ?_⟩
  · rw [List.getElem?_eq_none hk] at hcall
    cases hcall
  · rcases h.registered_of_author hp hauthor with ⟨k', call, hk', hid, -⟩ | hnil
    · have hlt := (List.getElem?_eq_some_iff.mp hk').1
      rw [number_inj.mp hid] at hk
      exact absurd hlt (Nat.not_lt.mpr hk)
    · cases hnil

/-- Which table requests are registered in, between the calls of the owner, after any starts and
stops. Without a transport a request fails and changes nothing. With one, requests are registered in
the table of the server that they are written to, if and only if the latest start could start its
process. If so, then from the moment in which the reader of this server has closed its table, until
the next start, a request fails because there is no server and writes nothing, and it comes to its
end alone; and whoever awaits a response stands in the table of a reader that serves it or will
close it, unless this reader broke down. If not, no reader has the table. -/
theorem Run.coherence (h : Run (.initial config) actions s) (hidle : s.owner = .idle) :
    (s.client.transport = none → TurnsAway s) ∧
    ∀ server, s.client.transport = some server →
      (s.client.table = s.client.tableOf server ↔ latestSpawn actions = some true) ∧
      (latestSpawn actions = some true →
        (∀ st, s.streams[server]? = some st → st.stage.hasClosed = true →
          (∀ x : Exchange, x.client = s.client → ∀ method params,
            ExchangeM.send method params x = some (.error .notRunning, x.issue)) ∧
          ∀ later s', Run s later s' → (∀ a ∈ later, a.isStart = false) →
            s'.client.current = .shut ∧ (∀ k, s.calls.length ≤ k → Refused s' k) ∧
              ∀ (k : Nat) (call : Call), s'.calls[k]? = some call → call.stage.live = true →
                EndsAlone s' k call 2) ∧
        ∀ (k t : Nat) (call : Call), s.calls[k]? = some call → call.stage.live = true →
          s.client.isWaitingIn t (number k) = true → t = s.client.tableOf server ∧
            ∃ st, s.streams[server]? = some st ∧ (st.stage.serves = true ∨ st.stage = .broken)) ∧
      (latestSpawn actions = some false →
        ∀ i < s.streams.length, s.client.tableOf i ≠ s.client.table) := by
  obtain ⟨H, n, hs⟩ := h.wired
  refine ⟨.of_transport_none hidle, ?_⟩
  intro server hserver
  refine ⟨H.table_eq_iff hidle hserver, ?_, ?_⟩
  · intro hspawned
    have htable := (H.table_eq_iff hidle hserver).mpr hspawned
    constructor
    · intro st hst hclosed
      have hshut := H.current_of_closed htable hst hclosed
      constructor
      · intro x hx method params
        exact ExchangeM.send_of_current_shut (hx ▸ hserver) (hx ▸ hshut) method params
      · intro later s' hlater hnone
        exact h.refuses hshut hlater hnone
    · intro k t call hk hlive hw
      exact H.serves_of_isWaitingIn hs (h.ledger (.initial config)) hserver htable hk hlive hw
  · intro hspawned i hi
    rw [hs.streams] at hi
    exact Nat.ne_of_lt (H.tableOf_lt (by rw [hspawned]; nofun) hi)

/-- After a start that could not start its server, a client that had one writes to the old server,
and no reader has the table in which its requests are registered. -/
theorem Run.coherence_spawn_fails :
    ∃ s, Run (.initial (.analyzer "wa")) [.owner .beginStart, .owner .attach,
        .owner (.introduce 1 none), .call 0 .register, .call 0 (.writeFails .brokenPipe),
        .call 0 .withdraw, .owner .fail, .owner .beginStart, .owner .spawnFails] s ∧
      s.owner = .idle ∧ s.client.transport = some 0 ∧ s.client.current.closed = false ∧
      s.client.table ≠ s.client.tableOf 0 ∧
      ∀ i < s.streams.length, s.client.tableOf i ≠ s.client.table := by
  obtain ⟨s, hrun, hidle, htransport, hopen⟩ :
      ∃ s, Run (.initial (.analyzer "wa")) [.owner .beginStart, .owner .attach,
          .owner (.introduce 1 none), .call 0 .register, .call 0 (.writeFails .brokenPipe),
          .call 0 .withdraw, .owner .fail, .owner .beginStart, .owner .spawnFails] s ∧
        s.owner = .idle ∧ s.client.transport = some 0 ∧ s.client.current.closed = false :=
    ⟨_, .step (.owner (.beginStart ⟨rfl, fun _ h => absurd h List.not_mem_nil⟩)) <|
      .step (.owner (.attach rfl)) <| .step (.owner (.introduce 1 none rfl rfl)) <|
      .step (.call rfl (.register rfl rfl)) <| .step (.call rfl (.writeFails .brokenPipe rfl)) <|
      .step (.call rfl (.withdraw rfl)) <|
      .step (.owner (.fail (.inr ⟨0, rfl, _, rfl, rfl⟩))) <|
      .step (.owner (.beginStart ⟨rfl, fun _ h => List.mem_singleton.mp h ▸ rfl⟩)) <|
      .step (.owner (.spawnFails rfl)) <| .done _, rfl, rfl, rfl⟩
  obtain ⟨hiff, -, hstale⟩ := (Run.coherence hrun hidle).2 0 htransport
  exact ⟨s, hrun, hidle, htransport, hopen, (nomatch hiff.mp ·), hstale rfl⟩

end Traffic

end AnalyzerClient
