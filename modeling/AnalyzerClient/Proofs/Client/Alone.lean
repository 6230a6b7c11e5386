import AnalyzerClient.Proofs.Client.Exchange

/-!
# A client and its only server

An exchange in which the client started one server, which goes on reading what the client writes.
Whatever the server sends, and wherever its reader ends, the requests and notifications that the
server gets are those that the client wrote, in their order (`Exchange.Idle.request`,
`Exchange.Idle.notify`); between them there are only responses to its own requests.
-/

namespace AnalyzerClient

open AnalyzerClient.Protocol (Error Message Request)

/-! ## Calls -/

namespace Protocol.Message

/-- Whether a message is a request or a notification. Responses have no method. -/
def isCall (message : Json) : Bool := (message.member? "method").isSome

/-- Whether a server ends when it reads a message. -/
def isExit (message : Json) : Bool :=
  (message.member? "method").bind Json.string? == some exitMethod && (message.member? "id").isNone

variable {message id result params : Json} {method : String} {n : Int}

theorem isCall_responseJson : isCall (responseJson id result) = false := rfl

theorem isCall_requestJson : isCall (requestJson n method params) = true := rfl

theorem isCall_notificationJson : isCall (notificationJson method params) = true := rfl

theorem isExit_requestJson : isExit (requestJson n method params) = false :=
  Bool.and_false _

theorem isExit_notificationJson (h : method ≠ exitMethod) :
    isExit (notificationJson method params) = false := by
  have hmethod : ((notificationJson method params).member? "method").bind Json.string? =
    some method := rfl
  rw [isExit, hmethod, Bool.and_eq_false_iff]
  exact .inl (beq_eq_false_iff_ne.mpr fun he => h (Option.some.inj he))

theorem isExit_of_not_isCall (h : isCall message = false) : isExit message = false := by
  rw [isCall, Option.isSome_eq_false_iff, Option.isNone_iff_eq_none] at h
  rw [isExit, h]
  rfl

end Protocol.Message

open Protocol.Message (isCall isExit isCall_responseJson isExit_of_not_isCall)

/-! ## Servers that go on reading -/

/-- Whether a server reads on after an action. -/
def ServerAction.keepsOpen : ServerAction → Bool
  | .closeInput | .exit => false
  | .send _ | .reply _ => true

/-- A server with this script reads until it is told to exit. -/
def ServerScript.KeepsOpen (script : ServerScript) : Prop :=
  ∀ actions ∈ script, ∀ action ∈ actions, action.keepsOpen = true

/-- What a server sends for a request with an id. -/
def ServerAction.octets (id : Json) : ServerAction → List UInt8
  | .send octets => octets
  | .reply message => Protocol.Frame.encode (Peer.complete id message)
  | .closeInput | .exit => []

open ServerScript (KeepsOpen)

namespace Peer

variable {p : Peer} {id message : Json} {messages : List Json} {actions : List ServerAction}
  {script : ServerScript}

theorem act_of_keepsOpen (h : ∀ action ∈ actions, action.keepsOpen = true) (p : Peer) :
    act id actions p =
      { p with outbox := p.outbox ++ actions.flatMap (ServerAction.octets id) } := by
  induction actions generalizing p with
  | nil => rw [List.flatMap_nil, List.append_nil]; rfl
  | cons action actions ih =>
    have hrest := ih fun action haction => h action (List.mem_cons_of_mem _ haction)
    rw [List.flatMap_cons, ← List.append_assoc]
    cases action with
    | send octets => exact hrest _
    | reply message => exact hrest _
    | closeInput | exit => cases h _ List.mem_cons_self

/-- What a server does when it reads a message, and what is left of its script then. -/
def plan (script : ServerScript) (message : Json) : List ServerAction × ServerScript :=
  match (message.member? "method").bind Json.string?, message.member? "id" with
  | some method, some _ =>
    if method == Request.shutdown.method then (standardActions method, script)
    else
      match script with
      | [] => (standardActions method, [])
      | actions :: script => (actions, script)
  | _, _ => ([], script)

theorem keepsOpen_standardActions (method : String) :
    ∀ action ∈ standardActions method, action.keepsOpen = true := by
  rw [standardActions]
  split
  · simp only [List.forall_mem_singleton]
    rfl
  · simp only [List.forall_mem_singleton]
    rfl

theorem keepsOpen_plan (h : KeepsOpen script) (message : Json) :
    (∀ action ∈ (plan script message).1, action.keepsOpen = true) ∧
      KeepsOpen (plan script message).2 := by
  rw [plan]
  split
  · split
    · exact ⟨keepsOpen_standardActions _, h⟩
    · split
      · exact ⟨keepsOpen_standardActions _, h⟩
      · exact ⟨h _ List.mem_cons_self, fun actions hactions =>
          h actions (List.mem_cons_of_mem _ hactions)⟩
  · exact ⟨nofun, h⟩

theorem receive_eq (hkeeps : KeepsOpen p.script) (hexit : isExit message = false) :
    p.receive message = { p with
      received := p.received ++ [message]
      script := (plan p.script message).2
      outbox := p.outbox ++ (plan p.script message).1.flatMap
        (ServerAction.octets ((message.member? "id").getD .null)) } := by
  obtain ⟨spec, script, inbox, received, outbox, inputOpen, outputOpen⟩ := p
  have hplan := (keepsOpen_plan hkeeps message).1
  rw [receive]
  cases hmethod : (message.member? "method").bind Json.string? with
  | none => simp only [plan, hmethod, List.flatMap_nil, List.append_nil]
  | some method =>
    cases hid : message.member? "id" with
    | none =>
      have hstays : (method == Protocol.exitMethod) = false := by
        simpa [isExit, hmethod, hid] using hexit
      simp only [plan, hmethod, hid, hstays, List.flatMap_nil, List.append_nil]
      rfl
    | some id =>
      simp only [plan, hmethod, hid] at hplan ⊢
      split
      case isTrue hshutdown =>
        rw [if_pos hshutdown] at hplan
        exact act_of_keepsOpen hplan _
      case isFalse hshutdown =>
        rw [if_neg hshutdown] at hplan
        cases script <;> exact act_of_keepsOpen hplan _

/-- A server that reads on. -/
structure Listening (p : Peer) : Prop where
  inputOpen : p.inputOpen = true
  keepsOpen : KeepsOpen p.script

theorem Listening.receive (h : p.Listening) (hexit : isExit message = false) :
    (p.receive message).Listening ∧ (p.receive message).received = p.received ++ [message] ∧
      (p.receive message).inbox = p.inbox := by
  rw [receive_eq h.keepsOpen hexit]
  exact ⟨⟨h.inputOpen, (keepsOpen_plan h.keepsOpen message).2⟩, rfl, rfl⟩

theorem Listening.receiveAll (h : p.Listening) (hexit : ∀ m ∈ messages, isExit m = false) :
    (receiveAll messages p).Listening ∧
      (receiveAll messages p).received = p.received ++ messages ∧
      (receiveAll messages p).inbox = p.inbox := by
  induction messages generalizing p with
  | nil => exact ⟨h, (List.append_nil _).symm, rfl⟩
  | cons message messages ih =>
    obtain ⟨hlistening, hreceived, hinbox⟩ := h.receive (hexit _ List.mem_cons_self)
    obtain ⟨hlistening', hreceived', hinbox'⟩ :=
      ih hlistening fun m hm => hexit m (List.mem_cons_of_mem _ hm)
    rw [Peer.receiveAll, if_pos h.inputOpen]
    refine ⟨hlistening', ?_, hinbox'.trans hinbox⟩
    rw [hreceived', hreceived, List.append_assoc]
    rfl

theorem Listening.react (h : p.Listening) (hexit : ∀ m ∈ p.inbox, isExit m = false) :
    p.react.Listening ∧ p.react.received = p.received ++ p.inbox ∧ p.react.inbox = [] :=
  Listening.receiveAll (p := { p with inbox := [] }) ⟨h.inputOpen, h.keepsOpen⟩ hexit

end Peer

/-! ## What stays while messages are read -/

namespace Client

/-- Two clients with the same server and the same numbers, and with the same tables open. -/
structure Steady (c c' : Client) : Prop where
  servers : c.SameServers c'
  process : c'.process = c.process
  config : c'.config = c.config
  nextId : c'.nextId = c.nextId
  table : c'.table = c.table
  length : c'.tables.length = c.tables.length
  closed : c'.current.closed = c.current.closed

variable {c c' c'' : Client}

theorem Steady.refl (c : Client) : Steady c c := ⟨⟨rfl, rfl⟩, rfl, rfl, rfl, rfl, rfl, rfl⟩

theorem Steady.trans (h : Steady c c') (h' : Steady c' c'') : Steady c c'' :=
  ⟨h.servers.trans h'.servers, h'.process.trans h.process, h'.config.trans h.config,
    h'.nextId.trans h.nextId, h'.table.trans h.table, h'.length.trans h.length,
    h'.closed.trans h.closed⟩

theorem steady_note (c : Client) (line : String) : Steady c (c.note line) :=
  ⟨⟨rfl, rfl⟩, rfl, rfl, rfl, rfl, rfl, rfl⟩

theorem steady_noteUnanswered (c : Client) (method : String) (e : Error) :
    Steady c (c.noteUnanswered method e) :=
  steady_note ..

theorem steady_emit (c : Client) (e : ClientEvent) : Steady c (c.emit e) :=
  ⟨⟨rfl, rfl⟩, rfl, rfl, rfl, rfl, rfl, rfl⟩

theorem steady_trace (c : Client) (message : Json) : Steady c (c.trace message) := by
  rw [trace]
  split
  · exact .refl c
  · exact steady_note ..
  · exact steady_note ..

theorem closed_updateTable {f : PendingTable → PendingTable}
    (hf : ∀ table, (f table).closed = table.closed) (c : Client) (t : Nat) :
    (c.updateTable t f).current.closed = c.current.closed := by
  rw [current, tables_updateTable, current, List.getD_eq_getElem?_getD,
    List.getD_eq_getElem?_getD, List.getElem?_modify]
  show (Option.getD (Option.map _ c.tables[c.table]?) PendingTable.empty).closed = _
  cases c.tables[c.table]? with
  | none => rfl
  | some table =>
    simp only [Option.map_some, Option.getD_some]
    split
    · exact hf table
    · rfl

theorem steady_resolve (c : Client) (t : Nat) (id : Int) (reply : Reply) :
    Steady c (c.resolve t id reply) where
  servers := ⟨rfl, rfl⟩
  process := rfl
  config := rfl
  nextId := rfl
  table := rfl
  length := List.length_modify ..
  closed := closed_updateTable (f := (·.remove id)) (fun _ => rfl) c t

theorem steady_register {id : Int} (h : c.register id = .ok c') : Steady c c' := by
  obtain ⟨hopen, rfl⟩ := register_eq_ok h
  refine ⟨⟨rfl, rfl⟩, rfl, rfl, rfl, rfl, List.length_modify .., ?_⟩
  rw [hopen, current, tables_updateTable, List.getD_eq_getElem?_getD]
  show (Option.getD (c.tables.modify c.table _)[c.table]? PendingTable.empty).closed = false
  rw [List.getElem?_modify_eq]
  cases c.tables[c.table]? <;> rfl

theorem exists_register (h : c.current.closed = false) (id : Int) :
    ∃ c', c.register id = .ok c' := by
  cases hregister : c.register id with
  | ok c' => exact ⟨c', rfl⟩
  | error e =>
    rw [(register_eq_error hregister).1] at h
    cases h

theorem register_of_closed (h : c.current.closed = true) (id : Int) :
    c.register id = .error .notRunning := by
  rw [register, PendingTable.register, h]
  rfl

theorem steady_handle (c : Client) (server : Nat) (message : Json) :
    Steady c (c.handle server message).1 := by
  refine (steady_trace c message).trans ?_
  rw [handle]
  generalize c.trace message = c
  split
  · exact steady_note ..
  · rw [handleResponse]
    split
    · exact steady_resolve ..
    · exact steady_note ..
  · split
    · exact steady_emit ..
    · exact .refl c
  · exact .refl c

/-- The reader writes nothing but responses. -/
theorem isCall_answer {answer : Answer} {server : Nat} {message : Json}
    (h : c.handle server message = (c', some answer)) : isCall answer.message = false := by
  rw [handle] at h
  split at h
  · cases h
  · cases h
  · split at h <;> cases h
  · cases h
    exact isCall_responseJson

end Client

/-! ## One server -/

/-- The reader of a server read something, and wrote responses. -/
structure Link.Reads (l l' : Link) : Prop where
  peer : ∃ answers rest, (∀ answer ∈ answers, isCall answer = false) ∧
    l'.peer = { l.peer with inbox := l.peer.inbox ++ answers, outbox := rest }

namespace Link

variable {l l' l'' : Link}

theorem reads_rest (l : Link) (rest : List UInt8) (reading : Bool) :
    l.Reads ⟨{ l.peer with outbox := rest }, reading⟩ :=
  ⟨[], rest, List.forall_mem_nil _, by rw [List.append_nil]⟩

theorem Reads.refl (l : Link) : l.Reads l := l.reads_rest l.peer.outbox l.reading

theorem Reads.trans (h : l.Reads l') (h' : l'.Reads l'') : l.Reads l'' := by
  obtain ⟨answers, rest, hanswers, hpeer⟩ := h.peer
  obtain ⟨answers', rest', hanswers', hpeer'⟩ := h'.peer
  refine ⟨answers ++ answers', rest', fun answer hanswer => ?_, ?_⟩
  · exact (List.mem_append.mp hanswer).elim (hanswers answer) (hanswers' answer)
  · rw [hpeer', hpeer, List.append_assoc]

end Link

namespace Exchange

/-- Two exchanges with the same configuration and machine, and with the same number of the next
request. -/
structure Kept (x x' : Exchange) : Prop where
  config : x'.client.config = x.client.config
  machine : x'.machine = x.machine
  nextId : x'.client.nextId = x.client.nextId

/-- The client has one server. Its reader closes the table of requests when it ends, so that the
table is open as long as it reads. -/
structure Alone (x : Exchange) (link : Link) : Prop where
  links : x.links = [link]
  transport : x.client.transport = some 0
  process : x.client.process = some 0
  readers : x.client.readers = [x.client.table]
  table : x.client.table < x.client.tables.length
  reading : link.reading = true → x.client.current.closed = false

variable {x x' x'' : Exchange} {link link' : Link} {c : Client}

theorem Kept.refl (x : Exchange) : Kept x x := ⟨rfl, rfl, rfl⟩

theorem Kept.trans (h : Kept x x') (h' : Kept x' x'') : Kept x x'' :=
  ⟨h'.config.trans h.config, h'.machine.trans h.machine, h'.nextId.trans h.nextId⟩

theorem Alone.getElem? (h : x.Alone link) : x.links[0]? = some link := by
  rw [h.links]
  rfl

theorem Alone.modify (h : x.Alone link) (f : Link → Link) : x.links.modify 0 f = [f link] := by
  rw [h.links]
  rfl

theorem Alone.steady (h : x.Alone link) (hc : x.client.Steady c)
    (hreading : link'.reading = true → link.reading = true) :
    Alone { x with client := c, links := [link'] } link' where
  links := rfl
  transport := hc.servers.transport.trans h.transport
  process := hc.process.trans h.process
  readers := hc.servers.readers.trans (h.readers.trans (by rw [hc.table]))
  table := by
    rw [hc.table, hc.length]
    exact h.table
  reading hlink' := hc.closed.trans (h.reading (hreading hlink'))

theorem Alone.withClient (h : x.Alone link) (hc : x.client.Steady c) :
    Alone { x with client := c } link := by
  have h' := h.steady hc fun hreading => hreading
  rwa [← h.links] at h'

theorem Alone.issue (h : x.Alone link) : x.issue.Alone link :=
  ⟨h.links, h.transport, h.process, h.readers, h.table, h.reading⟩

theorem Alone.handle (h : x.Alone link) (message : Json) (rest : List UInt8) :
    ∃ link', (x.handle 0 message rest).Alone link' ∧ x.Kept (x.handle 0 message rest) ∧
      link.Reads link' ∧ link'.reading = link.reading ∧ link'.peer.outbox = rest := by
  have hsteady := Client.steady_handle x.client 0 message
  cases hhandle : x.client.handle 0 message with
  | mk c answer =>
    rw [hhandle] at hsteady
    have hread : link.Reads { link with peer := { link.peer with outbox := rest } } :=
      link.reads_rest rest link.reading
    rw [Traffic.handle_eq hhandle, h.modify]
    cases answer with
    | none =>
      exact ⟨_, h.steady hsteady fun hreading => hreading, ⟨hsteady.config, rfl, hsteady.nextId⟩,
        hread, rfl, rfl⟩
    | some answer =>
      dsimp only [Option.elim]
      rw [writeAnswer, Traffic.write_eq rfl]
      by_cases hopen : link.peer.inputOpen = true
      · rw [if_pos hopen]
        refine ⟨_, h.steady hsteady fun hreading => hreading, ⟨hsteady.config, rfl, hsteady.nextId⟩,
          hread.trans ⟨[answer.message], rest, ?_, rfl⟩, rfl, rfl⟩
        rw [List.forall_mem_singleton]
        exact Client.isCall_answer hhandle
      · rw [if_neg hopen]
        have hnoted := hsteady.trans
          (Client.steady_noteUnanswered c answer.method (.transport .brokenPipe))
        exact ⟨_, h.steady hnoted fun hreading => hreading, ⟨hnoted.config, rfl, hnoted.nextId⟩,
          hread, rfl, rfl⟩

theorem Alone.stopReading (h : x.Alone link) :
    (x.stopReading 0).Alone { link with reading := false } ∧ x.Kept (x.stopReading 0) := by
  have hlinks : (x.stopReading 0).links = [{ link with reading := false }] := h.modify _
  exact ⟨⟨hlinks, h.transport, h.process, h.readers, h.table,
    fun hreading => absurd hreading Bool.false_ne_true⟩, rfl, rfl, rfl⟩

theorem Alone.endReader (h : x.Alone link) (reason : String) :
    (x.endReader 0 reason).Alone { link with reading := false } ∧
      x.Kept (x.endReader 0 reason) := by
  obtain ⟨hstopped, -⟩ := h.stopReading
  have hends : (x.client.endReader 0 reason).process = x.client.process ∧
      (x.client.endReader 0 reason).config = x.client.config ∧
      (x.client.endReader 0 reason).nextId = x.client.nextId ∧
      (x.client.endReader 0 reason).table = x.client.table ∧
      (x.client.endReader 0 reason).tables.length = x.client.tables.length := by
    rw [Client.endReader]
    split <;> exact ⟨rfl, rfl, rfl, rfl, List.length_modify ..⟩
  obtain ⟨hprocess, hconfig, hnextId, htable, hlength⟩ := hends
  have hservers := Client.sameServers_endReader x.client 0 reason
  refine ⟨⟨hstopped.links, hservers.transport.trans h.transport, hprocess.trans h.process, ?_, ?_,
    fun hreading => absurd hreading Bool.false_ne_true⟩, hconfig, rfl, hnextId⟩
  · exact hservers.readers.trans (h.readers.trans (congrArg (fun t => [t]) htable.symm))
  · show (x.client.endReader 0 reason).table < (x.client.endReader 0 reason).tables.length
    rw [htable, hlength]
    exact h.table

theorem Alone.read (h : x.Alone link) (fuel : Nat) :
    ∃ link', (read 0 fuel x).Alone link' ∧ x.Kept (read 0 fuel x) ∧ link.Reads link' := by
  induction fuel generalizing x link with
  | zero => exact ⟨link, h, .refl x, .refl link⟩
  | succ fuel ih =>
    rw [Exchange.read, h.getElem?]
    dsimp only
    split
    case isFalse => exact ⟨link, h, .refl x, .refl link⟩
    case isTrue =>
      have hended : link.Reads { link with reading := false } :=
        link.reads_rest link.peer.outbox false
      split
      · next message rest _ =>
        obtain ⟨link₁, h₁, hkept, hreads, -⟩ := h.handle message rest
        obtain ⟨link₂, h₂, hkept', hreads'⟩ := ih h₁
        exact ⟨link₂, h₂, hkept.trans hkept', hreads.trans hreads'⟩
      · exact ⟨_, (h.endReader _).1, (h.endReader _).2, hended⟩
      · exact ⟨_, (h.endReader _).1, (h.endReader _).2, hended⟩
      · exact ⟨link, h, .refl x, .refl link⟩
      · exact ⟨_, h.stopReading.1, h.stopReading.2, hended⟩

theorem Alone.readAll_eq (h : x.Alone link) :
    x.readAll = Exchange.read 0 (link.peer.outbox.length + 1) x := by
  rw [readAll, h.links]
  show x.readFully 0 = _
  rw [readFully, h.getElem?]

theorem Alone.react (h : x.Alone link) :
    x.react.Alone { link with peer := link.peer.react } ∧ x.Kept x.react := by
  have hlinks : x.react.links = [{ link with peer := link.peer.react }] := by
    rw [Exchange.react, h.links]
    rfl
  exact ⟨⟨hlinks, h.transport, h.process, h.readers, h.table, h.reading⟩, rfl, rfl, rfl⟩

theorem Alone.settle_eq (h : x.Alone link) :
    x.settle = (Exchange.read 0 (link.peer.react.outbox.length + 1) x.react).react := by
  rw [Exchange.settle, h.react.1.readAll_eq]

/-- When everything has happened that can happen without the client, the server has read all
messages; only responses were added to them. -/
theorem Alone.settle (h : x.Alone link) (hlistening : link.peer.Listening)
    (hexit : ∀ m ∈ link.peer.inbox, isExit m = false) :
    ∃ link', x.settle.Alone link' ∧ x.Kept x.settle ∧ link'.peer.Listening ∧
      link'.peer.inbox = [] ∧
      link'.peer.received.filter isCall =
        (link.peer.received ++ link.peer.inbox).filter isCall := by
  obtain ⟨h₁, hkept₁⟩ := h.react
  obtain ⟨hlistening₁, hreceived₁, hinbox₁⟩ := hlistening.react hexit
  -- what the reader writes back stays in the inbox until the server reacts once more
  obtain ⟨link₂, h₂, hkept₂, hreads⟩ := h₁.read (link.peer.react.outbox.length + 1)
  obtain ⟨answers, rest, hanswers, hpeer⟩ := hreads.peer
  have hlistening₂ : link₂.peer.Listening := by
    rw [hpeer]
    exact ⟨hlistening₁.inputOpen, hlistening₁.keepsOpen⟩
  have hinbox₂ : link₂.peer.inbox = answers := by
    rw [hpeer, hinbox₁]
    rfl
  have hreceived₂ : link₂.peer.received = link.peer.received ++ link.peer.inbox := by
    rw [hpeer, hreceived₁]
  obtain ⟨h₃, hkept₃⟩ := h₂.react
  obtain ⟨hlistening₃, hreceived₃, hinbox₃⟩ := hlistening₂.react fun m hm =>
    isExit_of_not_isCall (hanswers m (hinbox₂ ▸ hm))
  have hnone : answers.filter isCall = [] :=
    List.filter_eq_nil_iff.mpr fun answer hanswer => by
      rw [hanswers answer hanswer]
      exact Bool.false_ne_true
  rw [h.settle_eq]
  refine ⟨_, h₃, (hkept₁.trans hkept₂).trans hkept₃, hlistening₃, hinbox₃, ?_⟩
  rw [hreceived₃, hreceived₂, hinbox₂, List.filter_append, hnone, List.append_nil]

/-- Writes a message to a server. -/
def written (x : Exchange) (server : Nat) (message : Json) : Exchange :=
  x.updateLink server fun l => { l with peer := { l.peer with inbox := l.peer.inbox ++ [message] } }

theorem Alone.written (h : x.Alone link) (message : Json) : (x.written 0 message).Alone
    { link with peer := { link.peer with inbox := link.peer.inbox ++ [message] } } :=
  ⟨h.modify _, h.transport, h.process, h.readers, h.table, h.reading⟩

/-- Writes a message to the first server, and lets everything happen that can happen then. -/
def told (x : Exchange) (message : Json) : Exchange := (x.written 0 message).settle

/-- The client has one server, which has read everything that the client wrote, and reads on. -/
structure Idle (x : Exchange) (config : Server.Config) (machine : Machine) (n : Int)
    (calls : List Json) : Prop where
  server : ∃ link, x.Alone link ∧ link.peer.Listening ∧ link.peer.inbox = [] ∧
    link.peer.received.filter isCall = calls
  config : x.client.config = config
  machine : x.machine = machine
  nextId : x.client.nextId = n

namespace Idle

variable {config : Server.Config} {machine : Machine} {n : Int} {calls : List Json}

theorem transport (h : x.Idle config machine n calls) : x.client.transport = some 0 := by
  obtain ⟨link, halone, -⟩ := h.server
  exact halone.transport

theorem write_eq (h : x.Idle config machine n calls) (message : Json) :
    x.write 0 message = (.ok (), x.written 0 message) := by
  obtain ⟨link, halone, hlistening, -⟩ := h.server
  rw [Traffic.write_eq halone.getElem?, if_pos hlistening.inputOpen]
  rfl

theorem told (h : x.Idle config machine n calls) {message : Json} (hcall : isCall message = true)
    (hexit : isExit message = false) :
    (x.told message).Idle config machine n (calls ++ [message]) := by
  obtain ⟨link, halone, hlistening, hinbox, hcalls⟩ := h.server
  obtain ⟨link', halone', hkept, hlistening', hinbox', hcalls'⟩ :=
    (halone.written message).settle ⟨hlistening.inputOpen, hlistening.keepsOpen⟩ (by
      dsimp only
      rw [hinbox, List.nil_append, List.forall_mem_singleton]
      exact hexit)
  refine ⟨⟨link', halone', hlistening', hinbox', ?_⟩, hkept.config.trans h.config,
    hkept.machine.trans h.machine, hkept.nextId.trans h.nextId⟩
  rw [hcalls', hinbox, List.nil_append, List.filter_append, hcalls, List.filter_cons_of_pos hcall,
    List.filter_nil]

theorem notify_eq (h : x.Idle config machine n calls) (method : String) (params : Json) :
    ExchangeM.notify method params x =
      some (.ok (), x.told (Message.notificationJson method params)) := by
  rw [ExchangeM.notify, ExchangeM.get_bind_run, h.transport]
  dsimp only
  rw [ExchangeM.get_bind_run, h.write_eq]
  rfl

/-- The number of a request is lost when the request is refused. -/
theorem issue (h : x.Idle config machine n calls) : x.issue.Idle config machine (n + 1) calls := by
  obtain ⟨link, halone, hserver⟩ := h.server
  refine ⟨⟨link, halone.issue, hserver⟩, h.config, h.machine, ?_⟩
  rw [← h.nextId]
  rfl

theorem steady {c : Client} (h : x.Idle config machine n calls) (hc : x.client.Steady c) :
    Idle { x with client := c } config machine n calls := by
  obtain ⟨link, halone, hserver⟩ := h.server
  exact ⟨⟨link, halone.withClient hc, hserver⟩, hc.config.trans h.config, h.machine,
    hc.nextId.trans h.nextId⟩

end Idle

/-- The exchange when a request was written, and everything has happened that can happen then. -/
def asked (x : Exchange) (method : String) (params : Json) : Exchange :=
  (x.issue.dispatch 0 x.client.nextId method params).2.settle

namespace Idle

variable {α : Type} {config : Server.Config} {machine : Machine} {n : Int} {calls : List Json}

theorem dispatch_eq (h : x.Idle config machine n calls) (hopen : x.client.current.closed = false)
    (method : String) (params : Json) :
    ∃ c : Client, x.issue.client.Steady c ∧ x.issue.client.register n = .ok c ∧
      x.issue.dispatch 0 x.client.nextId method params =
        (.ok n, written { x.issue with
          client := c.note ("--> " ++ method ++ " #" ++ Text.Numeral.renderInt n) } 0
            (Message.requestJson n method params)) := by
  have hopen' : x.issue.client.current.closed = false := hopen
  obtain ⟨c, hregister⟩ := Client.exists_register hopen' n
  have hsteady := Client.steady_register hregister
  have hidle := h.issue.steady (hsteady.trans
    (Client.steady_note c ("--> " ++ method ++ " #" ++ Text.Numeral.renderInt n)))
  refine ⟨c, hsteady, hregister, ?_⟩
  rw [dispatch, h.nextId, hregister]
  dsimp only [updateClient]
  rw [hidle.write_eq]

theorem asked (h : x.Idle config machine n calls) (hopen : x.client.current.closed = false)
    (method : String) (params : Json) :
    (x.asked method params).Idle config machine (n + 1)
      (calls ++ [Message.requestJson n method params]) := by
  obtain ⟨c, hsteady, -, hdispatch⟩ := h.dispatch_eq hopen method params
  rw [Exchange.asked, hdispatch]
  exact (h.issue.steady (hsteady.trans (Client.steady_note ..))).told
    Message.isCall_requestJson Message.isExit_requestJson

theorem request_of_closed (h : x.Idle config machine n calls)
    (hclosed : x.client.current.closed = true) (r : Request α) :
    ExchangeM.request r x = some (.error .notRunning, x.issue) := by
  have hclosed' : x.issue.client.current.closed = true := hclosed
  have hsend : ExchangeM.send r.method r.params x = some (.error .notRunning, x.issue) := by
    rw [ExchangeM.send_eq, h.transport]
    dsimp only
    rw [dispatch, Client.register_of_closed hclosed']
  rw [ExchangeM.request]
  show (ExchangeM.send r.method r.params x).bind _ = _
  rw [hsend]
  rfl

theorem request_of_open (h : x.Idle config machine n calls)
    (hopen : x.client.current.closed = false) (r : Request α) :
    ExchangeM.request r x =
      (ExchangeM.outcome (x.asked r.method r.params).client r.method n).map fun raw =>
        (ExchangeM.decodeResult r raw, x.asked r.method r.params) := by
  obtain ⟨c, -, -, hdispatch⟩ := h.dispatch_eq hopen r.method r.params
  have hsend : ExchangeM.send r.method r.params x =
      some (.ok n, (x.issue.dispatch 0 x.client.nextId r.method r.params).2) := by
    rw [ExchangeM.send_eq, h.transport]
    dsimp only
    rw [hdispatch]
  rw [ExchangeM.request]
  show (ExchangeM.send r.method r.params x).bind _ = _
  rw [hsend]
  show (ExchangeM.settle >>= fun _ => ExchangeM.await r.method n >>= fun raw =>
    pure (ExchangeM.decodeResult r raw)) _ = _
  rw [ExchangeM.settle_bind_run, ← Exchange.asked, ExchangeM.await]
  show Option.bind ((get >>= _ : ExchangeM _) _) _ = _
  rw [ExchangeM.get_bind_run]
  cases ExchangeM.outcome (x.asked r.method r.params).client r.method n <;> rfl

end Idle

end Exchange

end AnalyzerClient
