import AnalyzerClient.Proofs.Client.Tidings

/-!
# Two runs side by side

Nothing that the client, the readers and the owner do depends on the log, and only a reader depends
on what its server sent. `Twins` relates two states that differ in nothing else; what happens in one
of them can happen in the other one (`Step.twin`), so that states that differ in the log only have
the same runs (`Run.alike`).
-/

namespace AnalyzerClient

open AnalyzerClient.Protocol (Error Frame.read)

namespace Client

variable {c c' : Client}

/-- The client with another log. -/
def withLog (c : Client) (log : List String) : Client := { c with log := log }

/-- Two clients that differ in the log only. -/
def Alike (c d : Client) : Prop := ∃ log, d = c.withLog log

theorem Alike.refl (c : Client) : Alike c c := ⟨c.log, rfl⟩

theorem Alike.symm {d : Client} : Alike c d → Alike d c := by
  rintro ⟨log, rfl⟩
  exact ⟨c.log, rfl⟩

theorem Alike.trans {d e : Client} : Alike c d → Alike d e → Alike c e := by
  rintro ⟨_, rfl⟩ ⟨log, rfl⟩
  exact ⟨log, rfl⟩

theorem alike_note (c : Client) (line : String) : Alike c (c.note line) := ⟨_, rfl⟩

theorem alike_trace (c : Client) (message : Json) : Alike c (c.trace message) := by
  rw [trace]
  split
  · exact .refl c
  · exact alike_note ..
  · exact alike_note ..

theorem register_withLog (c : Client) (id : Int) (log : List String) :
    (c.withLog log).register id = (c.register id).map (·.withLog log) := by
  have hcurrent : (c.withLog log).current = c.current := rfl
  rw [register, register, hcurrent]
  cases c.current.register id <;> rfl

theorem markRunning_withLog (c : Client) (log : List String) :
    (c.withLog log).markRunning = c.markRunning.map (·.withLog log) := by
  have hstate : (c.withLog log).state = c.state := rfl
  rw [markRunning, markRunning, hstate]
  split <;> rfl

theorem handleResponse_alike {d : Client} (h : Alike c d) (t : Nat) (id : Int) (reply : Reply) :
    Alike (c.handleResponse t id reply) (d.handleResponse t id reply) := by
  obtain ⟨log, rfl⟩ := h
  have hwaiting : (c.withLog log).isWaitingIn t id = c.isWaitingIn t id := rfl
  rw [handleResponse, handleResponse, hwaiting]
  split
  · exact ⟨log, rfl⟩
  · exact ⟨_, rfl⟩

/-- What a message does to the client, and what is to be written, do not depend on the log. -/
theorem handle_alike {d : Client} (h : Alike c d) (server : Nat) (message : Json) :
    Alike (c.handle server message).1 (d.handle server message).1 ∧
      (d.handle server message).2 = (c.handle server message).2 := by
  have htrace : Alike (c.trace message) (d.trace message) :=
    ((alike_trace c message).symm.trans h).trans (alike_trace d message)
  rw [handle, handle]
  generalize c.trace message = c at htrace
  generalize d.trace message = d at htrace
  obtain ⟨log, rfl⟩ := htrace
  cases Protocol.Message.ofJson message with
  | error violation => exact ⟨⟨_, rfl⟩, rfl⟩
  | ok kind =>
    cases kind with
    | request id method params => exact ⟨⟨log, rfl⟩, rfl⟩
    | response id result error => exact ⟨handleResponse_alike ⟨log, rfl⟩ _ id _, rfl⟩
    | notification method params =>
      dsimp only
      cases Protocol.Notice.ofNotification? method params with
      | none => exact ⟨⟨log, rfl⟩, rfl⟩
      | some notice => exact ⟨⟨log, rfl⟩, rfl⟩

end Client

namespace Traffic

open Client (Alike)

variable {s s' t t' : Traffic} {a : Action} {actions : List Action} {server k : Nat}

/-! ## Single parties -/

theorem CallStep.alike {c c' d : Client} {call : Call} {action : CallAction} {stage : Stage}
    {parcels : List Parcel} (h : CallStep k c call action c' stage parcels) (hd : Alike c d) :
    ∃ d', CallStep k d call action d' stage parcels ∧ Alike c' d' := by
  obtain ⟨log, rfl⟩ := hd
  cases h with
  | @register c₁ hstage hok =>
    have hok' : (c.withLog log).register call.id = .ok (c₁.withLog log) := by
      rw [Client.register_withLog, hok]
      rfl
    exact ⟨_, .register hstage hok', _, rfl⟩
  | @refuse e hstage herror =>
    have herror' : (c.withLog log).register call.id = .error e := by
      rw [Client.register_withLog, herror]
      rfl
    exact ⟨_, .refuse hstage herror', log, rfl⟩
  | write hstage => exact ⟨_, .write hstage, log, rfl⟩
  | writeFails cause hstage => exact ⟨_, .writeFails cause hstage, log, rfl⟩
  | withdraw hstage => exact ⟨_, .withdraw hstage, log, rfl⟩
  | receive hstage houtcome => exact ⟨_, .receive hstage houtcome, log, rfl⟩
  | drop hlive => exact ⟨_, .drop hlive, log, rfl⟩

theorem ReaderStep.alike {c c' d : Client} {st st' : Stream} {action : ReaderAction}
    {parcels : List Parcel} (h : ReaderStep server c st action c' st' parcels) (hd : Alike c d) :
    ∃ d', ReaderStep server d st action d' st' parcels ∧ Alike c' d' := by
  cases h with
  | @read message rest c' answer hstage hreading hhandle =>
    obtain ⟨hclient, hanswer⟩ := Client.handle_alike hd server message
    rw [hhandle] at hclient hanswer
    exact ⟨_, .read hstage hreading (Prod.ext rfl hanswer), hclient⟩
  | answer hstage => exact ⟨d, .answer hstage, hd⟩
  | answerFails e hstage =>
    obtain ⟨log, rfl⟩ := hd
    exact ⟨_, .answerFails e hstage, _, rfl⟩
  | leave hstage hends => exact ⟨d, .leave hstage hends, hd⟩
  | breakDown hstage hreading => exact ⟨d, .breakDown hstage hreading, hd⟩
  | close hstage =>
    obtain ⟨log, rfl⟩ := hd
    exact ⟨_, .close hstage, log, rfl⟩
  | expect hstage hexpected =>
    obtain ⟨log, rfl⟩ := hd
    exact ⟨_, .expect hstage hexpected, log, rfl⟩
  | condemn hstage hunexpected =>
    obtain ⟨log, rfl⟩ := hd
    exact ⟨_, .condemn hstage hunexpected, log, rfl⟩
  | fail hstage =>
    obtain ⟨log, rfl⟩ := hd
    exact ⟨_, .fail hstage, log, rfl⟩
  | tell hstage =>
    obtain ⟨log, rfl⟩ := hd
    exact ⟨_, .tell hstage, _, rfl⟩
  | vanish hdoomed hstage => exact ⟨d, .vanish hdoomed hstage, hd⟩

/-- What an action of the owner makes of the streams. -/
def OwnerAction.restream (streams : List Stream) : OwnerAction → List Stream
  | .attach => streams ++ [.fresh]
  | .detach => streams.map fun st => { st with doomed := true }
  | _ => streams

/-- The state with another log and other streams. -/
def disguise (s : Traffic) (log : List String) (streams : List Stream) : Traffic :=
  { s with client := s.client.withLog log, streams := streams }

theorem OwnerStep.streams_eq {action : OwnerAction} (h : OwnerStep s action s') :
    s'.streams = action.restream s.streams := by
  cases h <;> rfl

/-- The owner looks neither at the log nor at the streams. -/
theorem OwnerStep.disguise {action : OwnerAction} (h : OwnerStep s action s') (log : List String)
    (streams : List Stream) :
    ∃ log', OwnerStep (s.disguise log streams) action
      (s'.disguise log' (action.restream streams)) := by
  cases h with
  | beginStart hfree => exact ⟨log, .beginStart hfree⟩
  | spawnFails howner => exact ⟨log, .spawnFails howner⟩
  | attach howner => exact ⟨log, .attach howner⟩
  | introduce processId root howner htransport =>
    exact ⟨log, .introduce processId root howner htransport⟩
  | @accept k call value info howner hcalled hended hdecode =>
    have haccept := OwnerStep.accept (s := s.disguise log streams) howner hcalled hended hdecode
    cases info with
    | none => exact ⟨_, haccept⟩
    | some info => exact ⟨_, haccept⟩
  | acknowledge howner htransport => exact ⟨log, .acknowledge howner htransport⟩
  | fail howner => exact ⟨log, .fail howner⟩
  | @mark c howner hrunning =>
    have hrunning' : (s.client.withLog log).markRunning = .ok (c.withLog log) := by
      rw [Client.markRunning_withLog, hrunning]
      rfl
    exact ⟨log, .mark howner hrunning'⟩
  | @markFails e howner hrunning =>
    have hrunning' : (s.client.withLog log).markRunning = .error e := by
      rw [Client.markRunning_withLog, hrunning]
      rfl
    exact ⟨log, .markFails howner hrunning'⟩
  | tellStarted howner => exact ⟨log, .tellStarted howner⟩
  | beginStop hfree => exact ⟨log, .beginStop hfree⟩
  | part howner htransport => exact ⟨log, .part howner htransport⟩
  | skip howner htransport => exact ⟨log, .skip howner htransport⟩
  | @hearGoodbye k call result howner hcalled hended =>
    have hhear := OwnerStep.hearGoodbye (s := s.disguise log streams) howner hcalled hended
    generalize ExchangeM.decodeResult .shutdown result = decoded at hhear ⊢
    cases decoded with
    | error e => exact ⟨_, hhear⟩
    | ok => exact ⟨_, hhear⟩
  | sayExit howner htransport => exact ⟨log, .sayExit howner htransport⟩
  | exitFails howner => exact ⟨log, .exitFails howner⟩
  | detach howner => exact ⟨log, .detach howner⟩
  | halt howner => exact ⟨log, .halt howner⟩
  | tellStopped howner => exact ⟨log, .tellStopped howner⟩
  | abandon hfree howner => exact ⟨log, .abandon hfree howner⟩

/-! ## Twins -/

/-- A relation between streams that is kept by what anybody but the reader does to them. -/
structure Steady (R : Stream → Stream → Prop) : Prop where
  ended : ∀ {st st' : Stream}, R st st' → st'.ended = st.ended
  arrive : ∀ {st st' : Stream} (octets : List UInt8), R st st' →
    R { st with octets := st.octets ++ octets } { st' with octets := st'.octets ++ octets }
  hangUp : ∀ {st st' : Stream}, R st st' → R { st with ended := true } { st' with ended := true }
  doom : ∀ {st st' : Stream}, R st st' → R { st with doomed := true } { st' with doomed := true }

theorem steady_eq : Steady (· = ·) where
  ended h := by rw [h]
  arrive _ h := by rw [h]
  hangUp h := by rw [h]
  doom h := by rw [h]

/-- Two states that differ in the log and in the stream of one server, which are related by `R`. -/
inductive Twins (R : Stream → Stream → Prop) (server : Nat) (s : Traffic) : Traffic → Prop
  | intro {st st' : Stream} (log : List String) (stream : s.streams[server]? = some st)
      (related : R st st') : Twins R server s (s.disguise log (s.streams.set server st'))

variable {R : Stream → Stream → Prop}

section Single

variable {st st₂ : Stream} {log : List String} {c d : Client}

/-- The stream of the server is replaced in both states. -/
theorem twins_set_self {st' st₂' : Stream} (hlt : server < s.streams.length)
    (hrelated : R st' st₂') (hd : Alike c d) (parcels : List Parcel) :
    Twins R server
      { s with client := c, streams := s.streams.set server st', parcels := parcels }
      { s.disguise log (s.streams.set server st₂) with
        client := d
        streams := (s.streams.set server st₂).set server st₂'
        parcels := parcels } := by
  obtain ⟨log', rfl⟩ := hd
  have h := Twins.intro log' (s := { s with
    client := c, streams := s.streams.set server st', parcels := parcels })
    (List.getElem?_set_self hlt) hrelated
  simp only [disguise, List.set_set] at h ⊢
  exact h

/-- Another stream is replaced in both states. -/
theorem twins_set_ne {i : Nat} (hi : i ≠ server) (hst : s.streams[server]? = some st)
    (hrelated : R st st₂) (hd : Alike c d) (st' : Stream) (parcels : List Parcel) :
    Twins R server
      { s with client := c, streams := s.streams.set i st', parcels := parcels }
      { s.disguise log (s.streams.set server st₂) with
        client := d, streams := (s.streams.set server st₂).set i st', parcels := parcels } := by
  obtain ⟨log', rfl⟩ := hd
  have h := Twins.intro log' (s := { s with
    client := c, streams := s.streams.set i st', parcels := parcels })
    ((List.getElem?_set_ne hi).trans hst) hrelated
  simp only [disguise] at h ⊢
  rw [List.set_comm _ _ hi] at h
  exact h

/-- What the owner does to the streams keeps them related. -/
theorem restream_set (hR : Steady R) (action : OwnerAction) {streams : List Stream}
    (hst : streams[server]? = some st) (hrelated : R st st₂) :
    ∃ st' st₂', (action.restream streams)[server]? = some st' ∧ R st' st₂' ∧
      action.restream (streams.set server st₂) = (action.restream streams).set server st₂' := by
  have hlt := (List.getElem?_eq_some_iff.mp hst).1
  cases action with
  | attach =>
    refine ⟨st, st₂, ?_, hrelated, ?_⟩
    · rw [OwnerAction.restream, List.getElem?_append_left hlt, hst]
    · rw [OwnerAction.restream, OwnerAction.restream, List.set_append_left _ _ hlt]
  | detach =>
    refine ⟨{ st with doomed := true }, { st₂ with doomed := true }, ?_, hR.doom hrelated, ?_⟩
    · rw [OwnerAction.restream, List.getElem?_map, hst]
      rfl
    · rw [OwnerAction.restream, OwnerAction.restream, List.map_set]
  | _ => exact ⟨st, st₂, hst, hrelated, rfl⟩

end Single

/-- A step that is not of the reader of the server. -/
theorem Step.twin (hR : Steady R) (H : Twins R server s t) (h : Step s a s')
    (hother : ∀ t action, a ≠ .reader server t action) :
    ∃ t', Step t a t' ∧ Twins R server s' t' := by
  cases H with
  | @intro st st₂ log hst hrelated =>
    have hlt := (List.getElem?_eq_some_iff.mp hst).1
    have hst₂ : (s.disguise log (s.streams.set server st₂)).streams[server]? = some st₂ :=
      List.getElem?_set_self hlt
    -- another stream is the same in both states
    have hne {i : Nat} {st₁ : Stream} (hi : i ≠ server) (hstream : s.streams[i]? = some st₁) :
        (s.disguise log (s.streams.set server st₂)).streams[i]? = some st₁ :=
      (List.getElem?_set_ne (Ne.symm hi)).trans hstream
    cases h with
    | begin method params howner htransport =>
      exact ⟨_, .begin method params howner htransport, .intro log hst hrelated⟩
    | turnAway method params howner htransport =>
      exact ⟨_, .turnAway method params howner htransport, .intro log hst hrelated⟩
    | notify method params howner htransport =>
      exact ⟨_, .notify method params howner htransport, .intro log hst hrelated⟩
    | notifyFails method params howner =>
      exact ⟨_, .notifyFails method params howner, .intro log hst hrelated⟩
    | @arrive i st₁ octets hstream hopened =>
      by_cases hi : i = server
      · subst hi
        cases hstream.symm.trans hst
        exact ⟨_, .arrive octets hst₂ ((hR.ended hrelated).trans hopened),
          twins_set_self hlt (hR.arrive octets hrelated) ⟨log, rfl⟩ s.parcels⟩
      · exact ⟨_, .arrive octets (hne hi hstream) hopened,
          twins_set_ne hi hst hrelated ⟨log, rfl⟩ _ s.parcels⟩
    | @hangUp i st₁ hstream =>
      by_cases hi : i = server
      · subst hi
        cases hstream.symm.trans hst
        exact ⟨_, .hangUp hst₂, twins_set_self hlt (hR.hangUp hrelated) ⟨log, rfl⟩ s.parcels⟩
      · exact ⟨_, .hangUp (hne hi hstream),
          twins_set_ne hi hst hrelated ⟨log, rfl⟩ _ s.parcels⟩
    | call hcalled hstep =>
      obtain ⟨_, hstep', log', rfl⟩ := hstep.alike ⟨log, rfl⟩
      exact ⟨_, .call hcalled hstep', .intro log' hst hrelated⟩
    | @reader i st₁ st' action c parcels hstream hstep =>
      have hi : i ≠ server := by
        rintro rfl
        exact hother _ _ rfl
      obtain ⟨d, hstep', hd⟩ := hstep.alike (d := s.client.withLog log) ⟨log, rfl⟩
      exact ⟨_, .reader (hne hi hstream) hstep', twins_set_ne hi hst hrelated hd _ _⟩
    | @owner action _ hstep =>
      obtain ⟨log', hstep'⟩ := hstep.disguise log (s.streams.set server st₂)
      obtain ⟨st', st₂', hst', hrelated', hset⟩ := restream_set hR action hst hrelated
      rw [← hstep.streams_eq] at hst' hset
      rw [hset] at hstep'
      exact ⟨_, .owner hstep', .intro log' hst' hrelated'⟩

/-! ## States that differ in the log -/

/-- Two states that differ in the log only. -/
def SameButLog (s t : Traffic) : Prop := ∃ log, t = { s with client := s.client.withLog log }

theorem Steady.symm (hR : Steady R) : Steady fun st st' => R st' st where
  ended h := (hR.ended h).symm
  arrive octets h := hR.arrive octets h
  hangUp h := hR.hangUp h
  doom h := hR.doom h

theorem Twins.symm (H : Twins R server s t) : Twins (fun st st' => R st' st) server t s := by
  cases H with
  | @intro st st₂ log hst hrelated =>
    obtain ⟨hlt, rfl⟩ := List.getElem?_eq_some_iff.mp hst
    have h := Twins.intro (R := fun st st' => R st' st) s.client.log
      (s := s.disguise log (s.streams.set server st₂)) (List.getElem?_set_self hlt) hrelated
    simp only [disguise, List.set_set, List.set_getElem_self] at h
    exact h

theorem Twins.swap (H : Twins (· = ·) server s t) : Twins (· = ·) server t s := by
  obtain ⟨log, hst, hrelated⟩ := H.symm
  exact .intro log hst hrelated.symm

theorem Twins.sameButLog (H : Twins (· = ·) server s t) : SameButLog s t := by
  cases H with
  | @intro st st₂ log hst hrelated =>
    obtain ⟨hlt, rfl⟩ := List.getElem?_eq_some_iff.mp hst
    cases hrelated
    refine ⟨log, ?_⟩
    rw [disguise, List.set_getElem_self]

/-- What happens in a state happens with any other log. -/
theorem Step.alike (H : Twins (· = ·) server s t) (h : Step s a s') :
    ∃ t', Step t a t' ∧ Twins (· = ·) server s' t' := by
  by_cases hown : ∃ t action, a = .reader server t action
  · obtain ⟨_, action, rfl⟩ := hown
    cases H with
    | @intro st st₂ log hst hrelated =>
      cases hrelated
      cases h with
      | @reader _ st₁ st' _ c parcels hstream hstep =>
        cases hstream.symm.trans hst
        have hlt := (List.getElem?_eq_some_iff.mp hst).1
        obtain ⟨d, hstep', hd⟩ := hstep.alike (d := s.client.withLog log) ⟨log, rfl⟩
        exact ⟨_, .reader (List.getElem?_set_self hlt) hstep', twins_set_self hlt rfl hd _⟩
  · refine h.twin steady_eq H fun t action ha => hown ⟨t, action, ha⟩

theorem Run.alike (H : Twins (· = ·) server s t) (h : Run s actions s') :
    ∃ t', Run t actions t' ∧ Twins (· = ·) server s' t' := by
  induction h generalizing t with
  | done s => exact ⟨t, .done t, H⟩
  | step hfirst _ ih =>
    obtain ⟨t₁, hfirst', H₁⟩ := hfirst.alike H
    obtain ⟨t', hrest, H'⟩ := ih H₁
    exact ⟨t', .step hfirst' hrest, H'⟩

end Traffic

end AnalyzerClient
