import AnalyzerClient.Proofs.Client.Closing
import AnalyzerClient.Proofs.Client.Settle
import AnalyzerClient.Proofs.Client.Streams

/-!
# Which reader resolves which table

Messages are written to the server that was started last, and its reader resolves the table of its
start. This is the table in which requests are registered, unless a later start could not start its
server: such a start makes a new table, which no reader resolves, and leaves the transport as it is.
`Wired` is the invariant behind this (`Run.wired`), and `Run.coherence` says what it means for
requests.
-/

namespace AnalyzerClient

theorem Client.tableOf_mem {c : Client} {i : Nat} (hi : i < c.readers.length) :
    c.tableOf i ∈ c.readers := by
  rw [tableOf, List.getD_eq_getElem?_getD, List.getElem?_eq_getElem hi]
  exact List.getElem_mem hi

namespace Traffic

variable {config : Server.Config} {s s' : Traffic} {a : Action} {actions : List Action}
  {n i k t server : Nat} {st : Stream} {call : Call} {spawned : Option Bool}

/-! ## Starts that succeed and starts that fail -/

/-- Whether an action starts the process of a server, or fails to. -/
def Action.spawned? : Action → Option Bool
  | .owner .attach => some true
  | .owner .spawnFails => some false
  | _ => none

/-- Whether the latest start could start the process of its server, if there was a start. -/
def latestSpawn (actions : List Action) : Option Bool := actions.reverse.findSome? Action.spawned?

theorem Action.spawned?_eq_none (hattach : a ≠ .owner .attach) (hfails : a ≠ .owner .spawnFails) :
    a.spawned? = none := by
  unfold Action.spawned?
  split
  · exact absurd rfl hattach
  · exact absurd rfl hfails
  · rfl

theorem latestSpawn_concat (actions : List Action) (a : Action) :
    latestSpawn (actions ++ [a]) = a.spawned?.or (latestSpawn actions) := by
  rw [latestSpawn, List.reverse_append, List.reverse_singleton, List.singleton_append,
    List.findSome?_cons]
  cases a.spawned? <;> rfl

/-! ## Transport and closed tables -/

/-- The transport changes only when a server is taken over or let go of. -/
theorem transport_step (h : Step s a s') (hattach : a ≠ .owner .attach)
    (hdetach : a ≠ .owner .detach) : s'.client.transport = s.client.transport := by
  cases h with
  | begin | turnAway | notify | notifyFails | arrive | hangUp => rfl
  | call hcalled hstep =>
    cases hstep with
    | register hstage hok => rw [(Client.register_eq_ok hok).2]; rfl
    | _ => rfl
  | @reader server _ _ _ _ _ hstream hstep =>
    cases hstep with
    | @read message _ _ _ _ _ hhandle =>
      have hservers := Client.sameServers_handle s.client server message
      rw [hhandle] at hservers
      exact hservers.transport
    | _ => rfl
  | owner hstep =>
    cases hstep with
    | attach => exact absurd rfl hattach
    | detach => exact absurd rfl hdetach
    | @accept k call value info => cases info <;> rfl
    | mark howner hrunning => rw [(Client.markRunning_eq_ok hrunning).2]; rfl
    | hearGoodbye =>
      dsimp only
      split <;> rfl
    | _ => rfl

/-- A table that is closed and empty stays so. -/
theorem shut_step (h : Step s a s') (ht : s.client.tables[t]? = some .shut) :
    s'.client.tables[t]? = some .shut := by
  have modify (t' : Nat) {f : PendingTable → PendingTable} (hf : f .shut = .shut) :
      (s.client.tables.modify t' f)[t]? = some .shut := by
    rw [List.getElem?_modify, ht]
    by_cases htt : t' = t <;> simp [htt, hf]
  cases h.effect with
  | quiet hsame | begun hsame | moved hsame | attached hsame => rw [hsame.tables]; exact ht
  | tabled hfree hsame =>
    rw [hsame.tables, Client.beginStart, List.getElem?_append_left
      (List.getElem?_eq_some_iff.mp ht).1, ht]
  | registered hcalled hstage hregister hsame =>
    obtain ⟨hopen, hc⟩ := Client.register_eq_ok hregister
    have hne : s.client.table ≠ t := by
      rintro rfl
      rw [Client.current, List.getD_eq_getElem?_getD, ht] at hopen
      cases hopen
    rw [hsame.tables, hc, Client.tables_updateTable, List.getElem?_modify_ne _ _ hne, ht]
  | withdrawn _ _ hsame | resolved _ _ hsame | closed hsame =>
    rw [hsame.tables]
    exact modify _ rfl

theorem getElem?_tables_closeTable {c : Client} (ht : c.tableOf server < c.tables.length) :
    (c.closeTable server).tables[c.tableOf server]? = some .shut := by
  rw [Client.closeTable, Client.tables_updateTable, List.getElem?_modify_eq,
    List.getElem?_eq_getElem ht]
  rfl

theorem tableOf_step (h : Step s a s') (hi : i < s.client.readers.length) :
    s'.client.tableOf i = s.client.tableOf i := by
  by_cases ha : a = .owner .attach
  · subst ha
    cases h with
    | owner hstep =>
      cases hstep with
      | attach => simp [Client.tableOf, Client.attach, List.getElem?_append_left hi]
  · rw [Client.tableOf, readers_step h ha, Client.tableOf]

/-! ## The invariant -/

/-- What links the transport, the tables and the readers. -/
structure Wired (s : Traffic) (spawned : Option Bool) : Prop where
  /-- Every reader has a table of its own. -/
  increasing : s.client.readers.Pairwise (· < ·)
  /-- A start that has no server has a table that no reader resolves. -/
  fresh : s.owner = .tabled ∨ spawned ≠ some true → ∀ t ∈ s.client.readers, t < s.client.table
  /-- The reader of the server that was started last resolves the table of its start. -/
  joined : s.owner ≠ .tabled → spawned = some true →
    s.client.readers.getLast? = some s.client.table
  attached : ∀ {server : Nat}, s.client.transport = some server →
    server + 1 = s.client.readers.length ∧ spawned ≠ none
  alive : ∀ {server : Nat} {st : Stream}, s.client.transport = some server →
    s.streams[server]? = some st → st.doomed = false
  doomed : ∀ {i : Nat} {st : Stream}, s.streams[i]? = some st → st.stage = .aborted →
    st.doomed = true
  closed : ∀ {i : Nat} {st : Stream}, s.streams[i]? = some st → st.stage.hasClosed = true →
    s.client.tables[s.client.tableOf i]? = some .shut

theorem Wired.initial (config : Server.Config) : Wired (.initial config) none :=
  ⟨.nil, fun _ => nofun, fun _ => nofun, nofun, nofun, nofun, nofun⟩

theorem tabled_step (h : Step s a s') (howner : s.owner = .tabled) (ha : a.spawned? = none) :
    s'.owner = .tabled := by
  cases h with
  | @owner action _ hstep =>
    have hstarts := hstep.startsAt
    rw [howner] at hstarts
    cases action with
    | attach | spawnFails => cases ha
    | _ => cases hstarts
  | _ => exact howner

theorem spawnFails_step (h : Step s (.owner .spawnFails) s') : s.owner = .tabled := by
  cases h with
  | owner hstep => cases hstep with | spawnFails howner => exact howner

theorem attach_step (h : Step s (.owner .attach) s') :
    s.owner = .tabled ∧ s'.client = s.client.attach ∧ s'.streams = s.streams ++ [.fresh] ∧
      s'.owner = .attached := by
  cases h with
  | owner hstep => cases hstep with | attach howner => exact ⟨howner, rfl, rfl, rfl⟩

theorem close_step (h : Step s (.reader i t .close) s') :
    s'.client.tables = (s.client.closeTable i).tables := by
  cases h with
  | reader hstream hstep => cases hstep with | close => rfl

/-- A reader that closed its table after a step did so before it or does so in it. -/
theorem ReaderStep.hasClosed_cases {c c' : Client} {st' : Stream} {action : ReaderAction}
    {parcels : List Parcel} (h : ReaderStep i c st action c' st' parcels)
    (hclosed : st'.stage.hasClosed = true) : action = .close ∨ st.stage.hasClosed = true := by
  cases h with
  | @read _ _ _ answer => cases answer <;> cases hclosed
  | close => exact .inl rfl
  | expect hstage | condemn hstage | fail hstage | tell hstage => exact .inr (by rw [hstage]; rfl)
  | answer | answerFails | leave | breakDown | vanish => cases hclosed

namespace Wired

theorem streams_of_step (H : Wired s spawned) (hs : Started s n) (h : Step s a s') {st' : Stream}
    (hst' : s'.streams[i]? = some st') :
    (st'.stage = .aborted → st'.doomed = true) ∧ (st'.stage.hasClosed = true →
      s'.client.tables[s'.client.tableOf i]? = some .shut) := by
  obtain ⟨st, hst, hevolves⟩ | ⟨-, -, rfl⟩ := h.stream_back hst'
  case inr => exact ⟨nofun, nofun⟩
  have hi : i < s.client.readers.length := hs.streams ▸ (List.getElem?_eq_some_iff.mp hst).1
  rw [tableOf_step h hi]
  cases hevolves with
  | rests hother hstage hdoomed =>
    rw [hstage, hdoomed]
    exact ⟨H.doomed hst, fun hclosed => shut_step h (H.closed hst hclosed)⟩
  | dooms hdetach hstage hdoomed =>
    rw [hstage]
    exact ⟨fun _ => hdoomed, fun hclosed => shut_step h (H.closed hst hclosed)⟩
  | reads hown hstep =>
    refine ⟨hstep.doomed_of_aborted, fun hclosed => ?_⟩
    rcases hstep.hasClosed_cases hclosed with rfl | hclosed
    · subst hown
      rw [close_step h]
      refine getElem?_tables_closeTable ?_
      rw [hs.tables]
      exact Nat.lt_succ_of_le (hs.readers _ (Client.tableOf_mem hi)).2
    · exact shut_step h (H.closed hst hclosed)

/-- A server that is taken over is wired to the table of its start. -/
theorem attach (H : Wired s spawned) (hs : Started s n) (h : Step s (.owner .attach) s') :
    Wired s' (some true) := by
  obtain ⟨howner, hclient, hstreams, howner'⟩ := attach_step h
  have hfresh := H.fresh (.inl howner)
  refine ⟨?_, ?_, ?_, ?_, ?_, fun hst => (H.streams_of_step hs h hst).1,
    fun hst => (H.streams_of_step hs h hst).2⟩
  · rw [hclient]
    exact List.pairwise_append.mpr ⟨H.increasing, List.pairwise_singleton _ _,
      fun t ht t' ht' => List.mem_singleton.mp ht' ▸ hfresh t ht⟩
  · rintro (hwhere | hne)
    · rw [howner'] at hwhere; cases hwhere
    · exact absurd rfl hne
  · intro _ _
    rw [hclient]
    exact List.getLast?_concat
  · intro server hserver
    rw [hclient] at hserver ⊢
    cases hserver
    have hlength : (s.client.readers ++ [s.client.table]).length = s.client.readers.length + 1 :=
      List.length_append
    exact ⟨hlength.symm, nofun⟩
  · intro server st hserver hst
    rw [hclient] at hserver
    cases hserver
    rw [hstreams, ← hs.streams, List.getElem?_concat_length] at hst
    cases hst
    rfl

/-- A client that has a transport after a step that takes over no server had it before. -/
theorem transport_back (h : Step s a s') (hattach : a ≠ .owner .attach)
    (hserver : s'.client.transport = some server) : s.client.transport = some server := by
  by_cases hdetach : a = .owner .detach
  · subst hdetach
    cases h with
    | owner hstep => cases hstep; cases hserver
  · rw [← transport_step h hattach hdetach, hserver]

theorem fresh_step (H : Wired s spawned) (hs : Started s n) (h : Step s a s')
    (hattach : a ≠ .owner .attach)
    (hwhere : s'.owner = .tabled ∨ a.spawned?.or spawned ≠ some true) :
    ∀ t ∈ s.client.readers, t < s'.client.table := by
  intro t ht
  by_cases hbegins : a = .owner .beginStart
  · -- the table that a start makes is the newest one
    subst hbegins
    rw [(hs.step h).table]
    exact Nat.lt_succ_of_le (hs.readers t ht).2
  · rw [(tables_step h hbegins).1]
    refine H.fresh ?_ t ht
    rcases hwhere with howner | hspawned
    · exact .inl (owner_step h hbegins howner)
    · by_cases hfails : a = .owner .spawnFails
      · subst hfails
        exact .inl (spawnFails_step h)
      · refine .inr fun he => hspawned ?_
        rw [Action.spawned?_eq_none hattach hfails, Option.none_or, he]

theorem joined_step (H : Wired s spawned) (h : Step s a s') (hattach : a ≠ .owner .attach)
    (howner : s'.owner ≠ .tabled) (hspawned : a.spawned?.or spawned = some true) :
    s.client.readers.getLast? = some s'.client.table := by
  have hbegins : a ≠ .owner .beginStart := by
    rintro rfl
    cases h with
    | owner hstep => cases hstep; exact howner rfl
  have hnone : a.spawned? = none :=
    Action.spawned?_eq_none hattach fun hfails => by subst hfails; cases hspawned
  rw [(tables_step h hbegins).1]
  rw [hnone, Option.none_or] at hspawned
  exact H.joined (fun ho => howner (tabled_step h ho hnone)) hspawned

theorem alive_step (H : Wired s spawned) (h : Step s a s') (hattach : a ≠ .owner .attach)
    {st' : Stream} (hserver : s'.client.transport = some server)
    (hst' : s'.streams[server]? = some st') : st'.doomed = false := by
  obtain ⟨st, hst, hevolves⟩ : ∃ st, s.streams[server]? = some st ∧ Evolves s a server st st' :=
    (h.stream_back hst').resolve_right fun ha => hattach ha.1
  have halive := H.alive (transport_back h hattach hserver) hst
  cases hevolves with
  | rests _ _ hdoomed => rw [hdoomed, halive]
  | dooms hdetach =>
    -- the server that is let go of is no longer the one of the transport
    subst hdetach
    cases h with
    | owner hstep => cases hstep; cases hserver
  | reads _ hstep => rw [hstep.doomed_eq, halive]

theorem step (H : Wired s spawned) (hs : Started s n) (h : Step s a s') :
    Wired s' (a.spawned?.or spawned) := by
  by_cases hattach : a = .owner .attach
  · subst hattach
    exact H.attach hs h
  · have hreaders := readers_step h hattach
    refine ⟨hreaders ▸ H.increasing, fun hwhere => ?_, fun howner hspawned => ?_,
      fun hserver => ?_, fun hserver hst' => H.alive_step h hattach hserver hst',
      fun hst' => (H.streams_of_step hs h hst').1, fun hst' => (H.streams_of_step hs h hst').2⟩
    · rw [hreaders]
      exact H.fresh_step hs h hattach hwhere
    · rw [hreaders]
      exact H.joined_step h hattach howner hspawned
    · obtain ⟨hlast, hnone⟩ := H.attached (transport_back h hattach hserver)
      exact ⟨hreaders ▸ hlast, fun he => hnone (Option.or_eq_none_iff.mp he).2⟩

end Wired

theorem Run.wired (h : Run (.initial config) actions s) :
    Wired s (latestSpawn actions) ∧ ∃ n, Started s n := by
  -- the steps of `Wired` need the numbers of tables, readers and streams that `Started` links
  refine h.induct (P := fun actions s => Wired s (latestSpawn actions) ∧ ∃ n, Started s n)
    ⟨.initial config, 0, .initial config⟩ ?_
  rintro before s₁ a s₂ ⟨H, n, hs⟩ - hstep
  rw [latestSpawn_concat]
  exact ⟨H.step hs hstep, _, hs.step hstep⟩

end Traffic

end AnalyzerClient
