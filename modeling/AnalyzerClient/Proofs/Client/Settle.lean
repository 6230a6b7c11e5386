import AnalyzerClient.Proofs.Client.Traffic

/-!
# What happens without the client

An exchange lets the servers read all that was written to them, and their readers all that they
sent, before the client goes on. `Leads` says that this is a run of the traffic in which no request
and not the owner does anything (`leads_settle`).
-/

namespace AnalyzerClient

/-! ## What a server sends -/

namespace Peer

variable {p p' p'' : Peer}

/-- A server ended when its output is closed, and then it reads nothing. -/
def Sound (p : Peer) : Prop := p.inputOpen = true → p.outputOpen = true

/-- The second server is the first one after it sent something. It sends nothing when it ended, and
stays so. -/
structure Sends (p p' : Peer) : Prop where
  outbox : ∃ octets, p'.outbox = p.outbox ++ octets ∧ (p.outputOpen = false → octets = [])
  output : p'.outputOpen = true → p.outputOpen = true
  sound : p'.Sound

theorem Sends.refl (h : p.Sound) : p.Sends p :=
  ⟨⟨[], (List.append_nil _).symm, fun _ => rfl⟩, fun ho => ho, h⟩

theorem Sends.trans (h : p.Sends p') (h' : p'.Sends p'') : p.Sends p'' := by
  obtain ⟨octets, houtbox, hended⟩ := h.outbox
  obtain ⟨octets', houtbox', hended'⟩ := h'.outbox
  refine ⟨⟨octets ++ octets', ?_, fun hclosed => ?_⟩, fun ho => h.output (h'.output ho), h'.sound⟩
  · rw [houtbox', houtbox, List.append_assoc]
  · have hclosed' : p'.outputOpen = false :=
      Bool.eq_false_iff.mpr fun ho => Bool.eq_false_iff.mp hclosed (h.output ho)
    rw [hended hclosed, hended' hclosed', List.append_nil]

theorem sends_act (id : Json) (actions : List ServerAction) (h : p.Sound)
    (hopen : p.outputOpen = true) : p.Sends (act id actions p) := by
  induction actions generalizing p with
  | nil => exact .refl h
  | cons action actions ih =>
    have hsend (octets : List UInt8) : p.Sends { p with outbox := p.outbox ++ octets } :=
      ⟨⟨octets, rfl, fun hclosed => absurd (hopen.symm.trans hclosed) nofun⟩, fun ho => ho, h⟩
    cases action with
    | send octets => exact (hsend octets).trans (ih h hopen)
    | reply message => exact (hsend _).trans (ih h hopen)
    | closeInput =>
      have hclose : p.Sends { p with inputOpen := false } :=
        ⟨(Sends.refl h).outbox, fun ho => ho, nofun⟩
      exact hclose.trans (ih nofun hopen)
    | exit => exact ⟨(Sends.refl h).outbox, nofun, nofun⟩

theorem sends_receive (message : Json) (h : p.Sound) (hopen : p.inputOpen = true) :
    p.Sends (p.receive message) := by
  have htake (script : ServerScript) :
      p.Sends { p with received := p.received ++ [message], script := script } :=
    ⟨(Sends.refl h).outbox, fun ho => ho, h⟩
  rw [receive]
  split
  · split
    · exact (htake _).trans (sends_act _ _ h (h hopen))
    · split
      · exact (htake _).trans (sends_act _ _ h (h hopen))
      · exact (htake _).trans (sends_act _ _ h (h hopen))
  · split
    · exact ⟨(Sends.refl h).outbox, nofun, nofun⟩
    · exact htake _
  · exact htake _

theorem sends_receiveAll (messages : List Json) (h : p.Sound) :
    p.Sends (receiveAll messages p) := by
  induction messages generalizing p with
  | nil => exact .refl h
  | cons message messages ih =>
    rw [receiveAll]
    split
    case isTrue hopen =>
      have hreceive := sends_receive message h hopen
      exact hreceive.trans (ih hreceive.sound)
    case isFalse => exact .refl h

theorem sends_react (h : p.Sound) : p.Sends p.react := by
  have hread : p.Sends { p with inbox := [] } := ⟨(Sends.refl h).outbox, fun ho => ho, h⟩
  exact hread.trans (sends_receiveAll p.inbox h)

theorem sends_dismiss (h : p.Sound) : p.Sends p.dismiss := ⟨(Sends.refl h).outbox, id, nofun⟩

theorem sends_kill (h : p.Sound) : p.Sends p.kill := ⟨(Sends.refl h).outbox, nofun, nofun⟩

end Peer

/-! ## The servers of a client -/

namespace Client

variable {c c' c'' : Client}

/-- Two clients with the same servers. -/
structure SameServers (c c' : Client) : Prop where
  transport : c'.transport = c.transport
  readers : c'.readers = c.readers

theorem SameServers.trans (h : SameServers c c') (h' : SameServers c' c'') : SameServers c c'' :=
  ⟨h'.transport.trans h.transport, h'.readers.trans h.readers⟩

theorem sameServers_trace (c : Client) (message : Json) : SameServers c (c.trace message) := by
  rw [trace]
  split <;> exact ⟨rfl, rfl⟩

theorem sameServers_handle (c : Client) (server : Nat) (message : Json) :
    SameServers c (c.handle server message).1 := by
  refine (sameServers_trace c message).trans ?_
  rw [handle]
  generalize c.trace message = c
  split
  · exact ⟨rfl, rfl⟩
  · rw [handleResponse]
    split <;> exact ⟨rfl, rfl⟩
  · split <;> exact ⟨rfl, rfl⟩
  · exact ⟨rfl, rfl⟩

theorem sameServers_endReader (c : Client) (server : Nat) (reason : String) :
    SameServers c (c.endReader server reason) := by
  rw [endReader]
  split <;> exact ⟨rfl, rfl⟩

end Client

namespace Traffic

variable {s s' : Traffic} {x x' : Exchange} {server : Nat} {link : Link} {st : Stream}

/-! ## The traffic of an exchange -/

/-- A stream holds what came from the server of a link, and its reader reads while that of the link
does. -/
structure Stream.Tracks (st : Stream) (link : Link) : Prop where
  octets : st.octets = link.peer.outbox
  ended : st.ended = !link.peer.outputOpen
  stage : link.reading = true → st.stage = .reading
  sound : link.peer.Sound

/-- The traffic has the client and the servers of an exchange. -/
structure Tracks (s : Traffic) (x : Exchange) : Prop where
  client : s.client = x.client
  length : s.streams.length = x.links.length
  stream : ∀ {server : Nat} {st : Stream} {link : Link}, s.streams[server]? = some st →
    x.links[server]? = some link → st.Tracks link
  attached : ∀ {server : Nat}, x.client.transport = some server → server < x.links.length
  readers : x.client.readers.length = x.links.length

theorem Tracks.stream_of_link (h : s.Tracks x) (hlink : x.links[server]? = some link) :
    ∃ st, s.streams[server]? = some st ∧ st.Tracks link := by
  have hlt : server < s.streams.length := h.length ▸ (List.getElem?_eq_some_iff.mp hlink).1
  exact ⟨_, List.getElem?_eq_getElem hlt, h.stream (List.getElem?_eq_getElem hlt) hlink⟩

theorem Tracks.same (h : s.Tracks x) (hclient : s'.client = s.client)
    (hstreams : s'.streams = s.streams) : s'.Tracks x :=
  ⟨hclient.trans h.client, hstreams ▸ h.length, hstreams ▸ h.stream, h.attached, h.readers⟩

/-- A change of one link is followed by a change of its stream. -/
theorem Tracks.set {c : Client} {f : Link → Link} (h : s.Tracks x)
    (hlink : x.links[server]? = some link) (hstream : st.Tracks (f link))
    (hc : x.client.SameServers c) :
    Tracks { s with client := c, streams := s.streams.set server st }
      { x with client := c, links := x.links.modify server f } where
  client := rfl
  length := by rw [List.length_set, List.length_modify, h.length]
  stream := by
    intro other st' link' hst' hlink'
    by_cases hother : server = other
    · subst hother
      rw [List.getElem?_modify_eq, hlink] at hlink'
      rw [List.getElem?_set_self (h.length ▸ (List.getElem?_eq_some_iff.mp hlink).1)] at hst'
      cases hst'
      cases hlink'
      exact hstream
    · rw [List.getElem?_set_ne hother] at hst'
      rw [List.getElem?_modify_ne f _ hother] at hlink'
      exact h.stream hst' hlink'
  attached hserver := by
    rw [List.length_modify]
    exact h.attached (hc.transport ▸ hserver)
  readers := by rw [List.length_modify, hc.readers, h.readers]

/-- What a server sends arrives, and its output may end. -/
theorem run_of_sends {peer : Peer} (hst : s.streams[server]? = some st) (ht : st.Tracks link)
    (h : link.peer.Sends peer) : ∃ actions st',
      Run s actions { s with streams := s.streams.set server st' } ∧
        st'.Tracks { link with peer := peer } := by
  obtain ⟨octets, houtbox, hended⟩ := h.outbox
  cases hopen : link.peer.outputOpen with
  | false =>
    refine ⟨_, _, .step (.hangUp hst) (.done _), ⟨?_, ?_, ht.stage, h.sound⟩⟩
    · rw [houtbox, hended hopen, List.append_nil]
      exact ht.octets
    · have hclosed : peer.outputOpen = false :=
        Bool.eq_false_iff.mpr fun ho => Bool.eq_false_iff.mp hopen (h.output ho)
      rw [hclosed]
      rfl
  | true =>
    have hended : st.ended = false := by rw [ht.ended, hopen]; rfl
    have harrive := Step.arrive octets hst hended
    have hoctets : st.octets ++ octets = peer.outbox := by rw [houtbox, ht.octets]
    cases hclosed : peer.outputOpen with
    | true =>
      exact ⟨_, _, .step harrive (.done _), ⟨hoctets, by rw [hclosed]; exact hended, ht.stage,
        h.sound⟩⟩
    | false =>
      have hst' : (s.streams.set server { st with octets := st.octets ++ octets })[server]? =
          some { st with octets := st.octets ++ octets } :=
        List.getElem?_set_self (List.getElem?_eq_some_iff.mp hst).1
      have hhangUp := Step.hangUp (s := { s with streams := _ }) hst'
      rw [List.set_set] at hhangUp
      exact ⟨_, _, .step harrive (.step hhangUp (.done _)), ⟨hoctets, by rw [hclosed]; rfl,
        ht.stage, h.sound⟩⟩

/-- The first exchange becomes the second one by what servers and their readers do. -/
def Leads (x x' : Exchange) : Prop :=
  ∀ s : Traffic, s.Tracks x → ∃ actions s', Run s actions s' ∧ s'.Tracks x' ∧
    s'.calls = s.calls ∧ s'.owner = s.owner

theorem Leads.refl (x : Exchange) : Leads x x := fun s h => ⟨[], s, .done s, h, rfl, rfl⟩

theorem Leads.trans {x'' : Exchange} (h : Leads x x') (h' : Leads x' x'') : Leads x x'' := by
  intro s hs
  obtain ⟨actions, s', hrun, hs', hcalls, howner⟩ := h s hs
  obtain ⟨actions', s'', hrun', hs'', hcalls', howner'⟩ := h' s' hs'
  exact ⟨_, s'', hrun.append hrun', hs'', hcalls'.trans hcalls, howner'.trans howner⟩

theorem Leads.free (h : Leads x x') (hs : s.Tracks x) (hfree : s.Free) :
    ∃ actions s', Run s actions s' ∧ s'.Tracks x' ∧ s'.Free := by
  obtain ⟨actions, s', hrun, h', hcalls, howner⟩ := h s hs
  exact ⟨actions, s', hrun, h', howner.trans hfree.1, hcalls ▸ hfree.2⟩

/-- The servers read one after the other. -/
theorem run_react (h : s.Tracks x) (n : Nat) : ∃ actions streams,
    Run s actions { s with streams := streams } ∧ streams.length = s.streams.length ∧
      ∀ {server : Nat} {st : Stream} {link : Link}, streams[server]? = some st →
        x.links[server]? = some link →
        st.Tracks (if server < n then { link with peer := link.peer.react } else link) := by
  induction n with
  | zero =>
    refine ⟨[], s.streams, .done s, rfl, fun hst hlink => ?_⟩
    rw [if_neg (Nat.not_lt_zero _)]
    exact h.stream hst hlink
  | succ n ih =>
    obtain ⟨actions, streams, hrun, hlength, hstream⟩ := ih
    cases hlink : x.links[n]? with
    | none =>
      refine ⟨actions, streams, hrun, hlength, fun {server} st link hst hlink' => ?_⟩
      have hne : server ≠ n := by
        rintro rfl
        cases hlink.symm.trans hlink'
      have hlt : server < n + 1 ↔ server < n := by omega
      simp only [hlt]
      exact hstream hst hlink'
    | some link =>
      have hn : n < streams.length := by
        rw [hlength, h.length]
        exact (List.getElem?_eq_some_iff.mp hlink).1
      have hst := List.getElem?_eq_getElem hn
      have ht := hstream hst hlink
      rw [if_neg (Nat.lt_irrefl n)] at ht
      obtain ⟨actions', st', hrun', ht'⟩ := run_of_sends (s := { s with streams := streams }) hst ht
        (Peer.sends_react ht.sound)
      refine ⟨_, _, hrun.append hrun', (List.length_set ..).trans hlength,
        fun {server} st₁ link₁ hst₁ hlink₁ => ?_⟩
      by_cases hserver : n = server
      · subst hserver
        rw [List.getElem?_set_self hn] at hst₁
        cases hst₁
        cases hlink.symm.trans hlink₁
        rw [if_pos (Nat.lt_succ_self n)]
        exact ht'
      · rw [List.getElem?_set_ne hserver] at hst₁
        have hlt : server < n + 1 ↔ server < n := by omega
        simp only [hlt]
        exact hstream hst₁ hlink₁

theorem leads_react (x : Exchange) : Leads x x.react := by
  intro s h
  obtain ⟨actions, streams, hrun, hlength, hstream⟩ := run_react h x.links.length
  refine ⟨actions, _, hrun, ⟨h.client, ?_, fun {server} st link' hst hlink' => ?_,
    fun hserver => ?_, ?_⟩, rfl, rfl⟩
  · rw [hlength, h.length, Exchange.react, List.length_map]
  · rw [Exchange.react, List.getElem?_map, Option.map_eq_some_iff] at hlink'
    obtain ⟨link, hlink, rfl⟩ := hlink'
    have ht := hstream hst hlink
    rwa [if_pos (List.getElem?_eq_some_iff.mp hlink).1] at ht
  · rw [Exchange.react, List.length_map]
    exact h.attached hserver
  · rw [Exchange.react, List.length_map]
    exact h.readers

/-! ## What readers do -/

/-- Any number of actions of one reader. -/
inductive ReaderSteps (server : Nat) : Client → Stream → Client → Stream → Prop
  | done (c : Client) (st : Stream) : ReaderSteps server c st c st
  | step {c c' c'' : Client} {st st' st'' : Stream} {action : ReaderAction} {parcels : List Parcel}
      (first : ReaderStep server c st action c' st' parcels)
      (rest : ReaderSteps server c' st' c'' st'') : ReaderSteps server c st c'' st''

theorem ReaderSteps.run {c c' : Client} {st' : Stream} (h : ReaderSteps server c st c' st')
    (s : Traffic) (hc : s.client = c) (hst : s.streams[server]? = some st) :
    ∃ actions parcels, Run s actions
      { s with client := c', streams := s.streams.set server st', parcels := parcels } := by
  induction h generalizing s with
  | done c st =>
    obtain ⟨hlt, rfl⟩ := List.getElem?_eq_some_iff.mp hst
    subst hc
    refine ⟨[], s.parcels, ?_⟩
    rw [List.set_getElem_self]
    exact .done s
  | @step c c' c'' st st' st'' action parcels first rest ih =>
    subst hc
    have hst' := List.getElem?_set_self (a := st') (List.getElem?_eq_some_iff.mp hst).1
    obtain ⟨actions, parcels', hrun⟩ := ih { s with
      client := c', streams := s.streams.set server st', parcels := s.parcels ++ parcels } rfl hst'
    simp only [List.set_set] at hrun
    exact ⟨_, parcels', .step (.reader hst first) hrun⟩

theorem leads_of_reader {c : Client} {f : Link → Link} (hlink : x.links[server]? = some link)
    (hc : x.client.SameServers c)
    (hsteps : ∀ st : Stream, st.Tracks link →
      ∃ st', ReaderSteps server x.client st c st' ∧ st'.Tracks (f link)) :
    Leads x { x with client := c, links := x.links.modify server f } := by
  intro s h
  obtain ⟨st, hst, ht⟩ := h.stream_of_link hlink
  obtain ⟨st', hsteps, ht'⟩ := hsteps st ht
  obtain ⟨actions, parcels, hrun⟩ := hsteps.run s h.client hst
  exact ⟨actions, _, hrun, (h.set hlink ht' hc).same rfl rfl, rfl, rfl⟩

theorem readerSteps_endReader (server : Nat) (c : Client) (st : Stream) (reason : String) :
    ReaderSteps server c { st with stage := .left reason } (c.endReader server reason)
      { st with stage := .finished } := by
  refine .step (.close rfl) ?_
  rw [Client.endReader]
  split
  case isTrue hexpected => exact .step (.expect rfl hexpected) (.done ..)
  case isFalse hunexpected =>
    exact .step (.condemn rfl hunexpected) (.step (.fail rfl) (.step (.tell rfl) (.done ..)))

theorem leads_endReader {reason : String} (hlink : x.links[server]? = some link)
    (hreading : link.reading = true)
    (hends : ∀ st : Stream, st.Tracks link → st.Ends reason) :
    Leads x (x.endReader server reason) := by
  refine leads_of_reader hlink (x.client.sameServers_endReader server reason) fun st ht => ?_
  have hleave : ReaderStep server x.client st (.leave reason) x.client
      { st with stage := .left reason } [] := .leave (ht.stage hreading) (hends st ht)
  exact ⟨_, .step hleave (readerSteps_endReader server x.client st reason), ht.octets, ht.ended,
    nofun, ht.sound⟩

/-- A message is written to a server that reads, and to no other. -/
theorem write_eq (hlink : x.links[server]? = some link) (message : Json) :
    x.write server message =
      if link.peer.inputOpen then
        (.ok (), x.updateLink server fun l =>
          { l with peer := { l.peer with inbox := l.peer.inbox ++ [message] } })
      else (.error (.transport .brokenPipe), x) := by
  rw [Exchange.write, hlink]

theorem handle_eq {c : Client} {answer : Option Client.Answer} {message : Json}
    (h : x.client.handle server message = (c, answer)) (rest : List UInt8) :
    x.handle server message rest =
      let received : Exchange := { x with
        client := c
        links := x.links.modify server fun l => { l with peer := { l.peer with outbox := rest } } }
      answer.elim received (received.writeAnswer server) := by
  rw [Exchange.handle]
  have hclient : (x.updateLink server fun l =>
      { l with peer := { l.peer with outbox := rest } }).client = x.client := rfl
  rw [hclient, h]
  cases answer <;> rfl

theorem leads_handle {message : Json} {rest : List UInt8} (hlink : x.links[server]? = some link)
    (hreading : link.reading = true)
    (hread : Protocol.Frame.read (!link.peer.outputOpen) link.peer.outbox =
      .message message rest) :
    Leads x (x.handle server message rest) := by
  have hsent (st : Stream) (ht : st.Tracks link) :
      Protocol.Frame.read st.ended st.octets = .message message rest := by
    rw [ht.ended, ht.octets]
    exact hread
  have hservers := x.client.sameServers_handle server message
  cases hhandle : x.client.handle server message with
  | mk c answer =>
    rw [hhandle] at hservers
    rw [handle_eq hhandle]
    cases answer with
    | none =>
      exact leads_of_reader hlink hservers fun st ht => ⟨_,
        .step (.read (ht.stage hreading) (hsent st ht) hhandle) (.done ..), rfl, ht.ended,
        fun _ => rfl, ht.sound⟩
    | some answer =>
      have hlink' : (x.links.modify server fun l =>
          { l with peer := { l.peer with outbox := rest } })[server]? =
          some { link with peer := { link.peer with outbox := rest } } := by
        rw [List.getElem?_modify_eq, hlink]
        rfl
      dsimp only [Option.elim]
      rw [Exchange.writeAnswer, write_eq hlink']
      cases hopen : link.peer.inputOpen with
      | true =>
        rw [if_pos rfl, Exchange.updateLink]
        dsimp only
        rw [List.modify_modify_eq]
        exact leads_of_reader hlink hservers fun st ht => ⟨_,
          .step (.read (ht.stage hreading) (hsent st ht) hhandle) (.step (.answer rfl) (.done ..)),
          rfl, ht.ended, fun _ => rfl, ht.sound⟩
      | false =>
        rw [if_neg (by decide)]
        exact leads_of_reader hlink (hservers.trans ⟨rfl, rfl⟩) fun st ht => ⟨_,
          .step (.read (ht.stage hreading) (hsent st ht) hhandle)
            (.step (.answerFails _ rfl) (.done ..)),
          rfl, ht.ended, fun _ => rfl, ht.sound⟩

theorem leads_read (server fuel : Nat) (x : Exchange) : Leads x (Exchange.read server fuel x) := by
  induction fuel generalizing x with
  | zero => exact .refl x
  | succ fuel ih =>
    rw [Exchange.read]
    cases hlink : x.links[server]? with
    | none => exact .refl x
    | some link =>
      dsimp only
      split
      case isFalse => exact .refl x
      case isTrue hreading =>
        have hends {reason : String}
            (h : ∀ st : Stream, st.ended = !link.peer.outputOpen → st.octets = link.peer.outbox →
              st.Ends reason) : Leads x (x.endReader server reason) :=
          leads_endReader hlink hreading fun st ht => h st ht.ended ht.octets
        split
        · next hread => exact (leads_handle hlink hreading hread).trans (ih _)
        · next hread => exact hends fun st he ho => .finished (by rw [he, ho, hread])
        · next hread => exact hends fun st he ho => .failed (by rw [he, ho, hread])
        · exact .refl x
        · next hread =>
          exact leads_of_reader hlink ⟨rfl, rfl⟩ fun st ht => ⟨_,
            .step (.breakDown (ht.stage hreading) (by rw [ht.ended, ht.octets, hread])) (.done ..),
            ht.octets, ht.ended, nofun, ht.sound⟩

theorem leads_readFully (x : Exchange) (server : Nat) : Leads x (x.readFully server) := by
  rw [Exchange.readFully]
  split
  · exact .refl x
  · exact leads_read server _ x

theorem leads_readAll (x : Exchange) : Leads x x.readAll := by
  have hfold (servers : List Nat) (x : Exchange) :
      Leads x (servers.foldl Exchange.readFully x) := by
    induction servers generalizing x with
    | nil => exact .refl x
    | cons server servers ih => exact (leads_readFully x server).trans (ih _)
  exact hfold _ x

theorem leads_settle (x : Exchange) : Leads x x.settle :=
  ((leads_react x).trans (leads_readAll _)).trans (leads_react _)

end Traffic

end AnalyzerClient
