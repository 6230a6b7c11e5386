import AnalyzerClient.Proofs.Client.Alone
import AnalyzerClient.Proofs.Protocol.Arrival

/-!
# Servers that answer

A client that waits for a reply goes on when the reply comes or its reader ends. A server whose
script answers every request, be it by breaking its stream off (`Protocol.Frame.Answers`), keeps no
client waiting: between two requests the client awaits nothing, and everything that the server sent
is read (`Exchange.Prompt`).
-/

namespace AnalyzerClient

open AnalyzerClient.Protocol (Error Message Request)
open Protocol.Message (isCall isExit isExit_of_not_isCall)

/-! ## Answers in a stream -/

namespace Protocol.Frame

/-- The requests that are still awaited when a message was read. -/
def remaining (message : Json) (ids : List Int) : List Int :=
  match Client.responseOf? message with
  | some (id, _) => ids.filter (· != id)
  | none => ids

/-- A server that sends these octets answers the awaited requests: whole messages stand in them,
among them a response to each request, or on the way something stands there that ends the reader. -/
inductive Answers : List Int → List UInt8 → Prop
  | done : Answers [] []
  | broken {ids : List Int} {octets : List UInt8} {e : Error} :
      read false octets = .failed e → Answers ids octets
  | message {ids : List Int} {octets rest : List UInt8} {message : Json} :
      read false octets = .message message rest → Answers (remaining message ids) rest →
      Answers ids octets

end Protocol.Frame

open Protocol.Frame (Answers remaining length_read)

/-- A server with this script answers each request, when the numbers of the requests begin with
`n`. -/
def ServerScript.Answers (script : ServerScript) (n : Int) : Prop :=
  ∀ (k : Nat) (actions : List ServerAction), script[k]? = some actions →
    Protocol.Frame.Answers [n + k] (actions.flatMap (ServerAction.octets (.ofInt (n + k))))

namespace ServerScript

variable {n : Int} {actions : List ServerAction} {script : ServerScript}

theorem answers_nil (n : Int) : Answers [] n := nofun

theorem Answers.head (h : Answers (actions :: script) n) :
    Protocol.Frame.Answers [n] (actions.flatMap (ServerAction.octets (.ofInt n))) := by
  have hfirst := h 0 actions rfl
  rwa [Int.natCast_zero, Int.add_zero] at hfirst

theorem Answers.tail (h : Answers (actions :: script) n) : Answers script (n + 1) := by
  intro k actions hactions
  have hlater := h (k + 1) actions hactions
  rwa [Int.natCast_succ, Int.add_comm (k : Int) 1, ← Int.add_assoc] at hlater

end ServerScript

/-- The numbers that requests have when there is one between the first and the last. -/
def IsEarly (n : Int) : Prop := n = 1 ∨ n = 2 ∨ n = 3

namespace Peer

/-- The result of a request that a script does not mention. -/
def standardResult (method : String) : Json :=
  if method == "initialize" then .mkObject [("capabilities", .object [])] else .null

/-- The response to a request that a script does not mention. -/
def standardReply (method : String) (n : Int) : Json :=
  .mkObject [("id", .ofInt n), ("jsonrpc", .string "2.0"), ("result", standardResult method)]

theorem octets_standardActions (method : String) (n : Int) :
    (standardActions method).flatMap (ServerAction.octets (.ofInt n)) =
      Protocol.Frame.encode (standardReply method n) ++ [] := by
  rw [standardActions, standardReply, standardResult]
  split <;> rfl

theorem framable_standardReply {n : Int} (hn : IsEarly n) (method : String) :
    Protocol.Frame.Framable (standardReply method n) := by
  have hresult : (standardResult method).Proper ∧ (standardResult method).Integral := by
    rw [standardResult]
    split
    · refine ⟨Json.proper_mkObject ?_, Json.integral_mkObject ?_⟩
      · rw [List.forall_mem_singleton]
        exact ⟨.nil, trivial⟩
      · rw [List.forall_mem_singleton]
        exact trivial
    · exact ⟨trivial, trivial⟩
  have hnumber : (Json.ofInt n).Proper := by
    rcases hn with rfl | rfl | rfl <;> exact ⟨by decide, by decide⟩
  refine ⟨?_, ?_, ?_, ?_⟩
  · apply Json.proper_mkObject
    simp only [List.forall_mem_cons]
    exact ⟨hnumber, trivial, hresult.1, nofun⟩
  · apply Json.integral_mkObject
    simp only [List.forall_mem_cons]
    exact ⟨rfl, trivial, hresult.2, nofun⟩
  · rw [standardReply, standardResult]
    rcases hn with rfl | rfl | rfl <;> split <;> decide
  · apply Protocol.Frame.length_encode_compact_lt
    rw [standardReply, standardResult]
    rcases hn with rfl | rfl | rfl <;> split <;> decide +kernel

theorem remaining_standardReply {n : Int} (hn : IsEarly n) (method : String) :
    remaining (standardReply method n) [n] = [] := by
  have hresponse : Message.ofJson (standardReply method n) =
      .ok (.response n (some (standardResult method)) none) := by
    rcases hn with rfl | rfl | rfl <;> rfl
  rw [remaining, Client.responseOf?, hresponse]
  simp

theorem answers_standardActions {n : Int} (hn : IsEarly n) (method : String) :
    Answers [n] ((standardActions method).flatMap (ServerAction.octets (.ofInt n))) := by
  rw [octets_standardActions]
  refine .message ((framable_standardReply hn method).read_encode false []) ?_
  rw [remaining_standardReply hn]
  exact .done

theorem plan_requestJson (script : ServerScript) (n : Int) (method : String) (params : Json) :
    plan script (Message.requestJson n method params) =
      if method == Request.shutdown.method then (standardActions method, script)
      else match script with
        | [] => (standardActions method, [])
        | actions :: script => (actions, script) :=
  rfl

theorem answers_plan {n : Int} {script : ServerScript} (h : script.Answers n) (hn : IsEarly n)
    (method : String) (params : Json) :
    Answers [n] ((plan script (Message.requestJson n method params)).1.flatMap
      (ServerAction.octets (.ofInt n))) := by
  rw [plan_requestJson]
  split
  · exact answers_standardActions hn method
  · cases script with
    | nil => exact answers_standardActions hn method
    | cons actions script => exact h.head

theorem answers_plan_rest {n : Int} {script : ServerScript} (h : script.Answers n)
    {method : String} (hmethod : method ≠ Request.shutdown.method) (params : Json) :
    (plan script (Message.requestJson n method params)).2.Answers (n + 1) := by
  rw [plan_requestJson, if_neg (by simpa using hmethod)]
  cases script with
  | nil => exact ServerScript.answers_nil _
  | cons actions script => exact h.tail

theorem plan_of_not_isCall {message : Json} (h : isCall message = false) (script : ServerScript) :
    plan script message = ([], script) := by
  rw [isCall, Option.isSome_eq_false_iff, Option.isNone_iff_eq_none] at h
  rw [plan, h]
  rfl

/-- A server that reads responses does nothing else. -/
theorem receiveAll_eq {p : Peer} {messages : List Json} (hlistening : p.Listening)
    (h : ∀ m ∈ messages, isCall m = false) :
    receiveAll messages p = { p with received := p.received ++ messages } := by
  induction messages generalizing p with
  | nil => rw [List.append_nil]; rfl
  | cons message messages ih =>
    obtain ⟨hmessage, hmessages⟩ := List.forall_mem_cons.mp h
    have hreceive : p.receive message = { p with received := p.received ++ [message] } := by
      rw [receive_eq hlistening.keepsOpen (isExit_of_not_isCall hmessage),
        plan_of_not_isCall hmessage]
      simp only [List.flatMap_nil, List.append_nil]
    have hlater := ih (p := { p with received := p.received ++ [message] })
      ⟨hlistening.inputOpen, hlistening.keepsOpen⟩ hmessages
    rw [receiveAll, if_pos hlistening.inputOpen, hreceive, hlater, List.append_assoc,
      List.singleton_append]

/-- On a request the next part of the script is done, unless the request is to shut down. -/
theorem react_requestJson {p : Peer} {n : Int} {method : String} {params : Json}
    {actions : List ServerAction} {script : ServerScript} (hopen : p.inputOpen = true)
    (hinbox : p.inbox = [Message.requestJson n method params])
    (hscript : p.script = actions :: script) (hmethod : method ≠ Request.shutdown.method) :
    p.react = act (.ofInt n) actions { p with
      inbox := [], script := script
      received := p.received ++ [Message.requestJson n method params] } := by
  rw [react, hinbox]
  show (if p.inputOpen = true then receive _ _ else _) = _
  rw [if_pos hopen, receive]
  show (if method == Request.shutdown.method then _ else _) = _
  rw [if_neg (by simpa using hmethod)]
  dsimp only
  rw [hscript]

end Peer

/-! ## Requests that are awaited -/

namespace Client

/-- The client awaits these requests in the table of its only start. -/
structure Awaits (c : Client) (closed : Bool) (ids : List Int) : Prop where
  tables : c.tables = [.empty, ⟨closed, ids⟩]
  table : c.table = 1

variable {c c' : Client} {closed : Bool} {ids : List Int} {id : Int}

namespace Awaits

theorem same (h : c.Awaits closed ids) (htables : c'.tables = c.tables)
    (htable : c'.table = c.table) : c'.Awaits closed ids :=
  ⟨htables.trans h.tables, htable.trans h.table⟩

theorem closed_current (h : c.Awaits closed ids) : c.current.closed = closed := by
  rw [current, h.tables, h.table]
  rfl

theorem isWaitingIn (h : c.Awaits closed ids) : c.isWaitingIn c.table id = ids.contains id := by
  rw [Client.isWaitingIn, h.tables, h.table]
  rfl

theorem not_isWaiting (h : c.Awaits closed []) : c.isWaiting id = false := by
  rw [isWaiting, h.tables]
  rfl

theorem updateTable (h : c.Awaits closed ids) (f : PendingTable → PendingTable) :
    (c.updateTable c.table f).tables = [.empty, f ⟨closed, ids⟩] := by
  rw [tables_updateTable, h.tables, h.table]
  rfl

theorem register (h : c.Awaits false []) (hregister : c.register id = .ok c') :
    c'.Awaits false [id] := by
  obtain ⟨hopen, rfl⟩ := register_eq_ok hregister
  refine ⟨?_, h.table⟩
  rw [h.updateTable, current, h.tables, h.table]
  rfl

theorem tableOf_eq (hreaders : c.readers = [c.table]) : c.tableOf 0 = c.table := by
  rw [tableOf, hreaders]
  rfl

theorem handle (h : c.Awaits false ids) (hreaders : c.readers = [c.table]) (message : Json) :
    (c.handle 0 message).1.Awaits false (remaining message ids) := by
  have htable := tableOf_eq hreaders
  rw [remaining]
  cases hhandle : c.handle 0 message with
  | mk c' answer =>
    obtain ⟨id, reply, hresponse, hwaiting, hsame⟩ | ⟨hnone, hsame⟩ := handle_effect hhandle
    · rw [htable] at hsame
      rw [hresponse]
      exact ⟨hsame.tables.trans (h.updateTable _), hsame.table.trans h.table⟩
    · have hkept := h.same hsame.tables hsame.table
      cases hresponse : responseOf? message with
      | none => exact hkept
      | some response =>
        have hunknown := hnone response.1 response.2 hresponse
        rw [htable, h.isWaitingIn, List.contains_eq_mem, decide_eq_false_iff_not] at hunknown
        have hall : ids.filter (· != response.1) = ids :=
          List.filter_eq_self.mpr fun id hid => bne_iff_ne.mpr fun he => hunknown (he ▸ hid)
        dsimp only
        rw [hall]
        exact hkept

theorem endReader (h : c.Awaits closed ids) (hreaders : c.readers = [c.table]) (reason : String) :
    (c.endReader 0 reason).Awaits true [] := by
  have hclosed : (c.closeTable 0).Awaits true [] := by
    rw [closeTable, tableOf_eq hreaders]
    exact ⟨h.updateTable _, h.table⟩
  rw [Client.endReader]
  split
  · exact hclosed
  · exact hclosed.same rfl rfl

end Awaits

end Client

/-! ## Reading the answers -/

namespace Exchange

variable {x : Exchange} {link : Link} {ids : List Int} {message : Json}

theorem Alone.unique {link' : Link} (h : x.Alone link) (h' : x.Alone link') : link' = link :=
  List.singleton_inj.mp (h'.links.symm.trans h.links)

/-- The client awaits nothing: its reader has read everything, or it has ended. -/
def Rests (x : Exchange) (link : Link) : Prop :=
  (link.reading = true → x.client.Awaits false [] ∧ link.peer.outbox = []) ∧
    (link.reading = false → x.client.Awaits true [])

theorem client_write (x : Exchange) (server : Nat) (message : Json) :
    (x.write server message).2.client = x.client := by
  rw [Exchange.write]
  cases x.links[server]? with
  | none => rfl
  | some link =>
    dsimp only
    split <;> rfl

theorem same_writeAnswer (x : Exchange) (server : Nat) (answer : Client.Answer) :
    x.client.Same (x.writeAnswer server answer).client := by
  have hclient := client_write x server answer.message
  rw [writeAnswer]
  split
  case h_1 hwrite =>
    rw [hwrite] at hclient
    exact hclient ▸ .refl _
  case h_2 hwrite =>
    rw [hwrite] at hclient
    exact hclient ▸ ⟨rfl, rfl, rfl, rfl, rfl⟩

theorem same_handle (x : Exchange) (server : Nat) (message : Json) (rest : List UInt8) :
    (x.client.handle server message).1.Same (x.handle server message rest).client := by
  cases hhandle : x.client.handle server message with
  | mk c answer =>
    rw [Traffic.handle_eq hhandle]
    cases answer with
    | none => exact .refl c
    | some answer =>
      dsimp only [Option.elim]
      exact same_writeAnswer { x with client := c, links := _ } server answer

/-- A reader that reads answers leaves nothing awaited. -/
theorem Alone.read_answers (h : x.Alone link) (hreading : link.reading = true)
    (houtput : link.peer.outputOpen = true) (hawaits : x.client.Awaits false ids)
    (hanswers : Answers ids link.peer.outbox) {fuel : Nat}
    (hfuel : link.peer.outbox.length < fuel) :
    ∃ link', (Exchange.read 0 fuel x).Alone link' ∧ link.Reads link' ∧
      (Exchange.read 0 fuel x).Rests link' := by
  induction fuel generalizing x link ids with
  | zero => cases hfuel
  | succ fuel ih =>
    rw [Exchange.read, h.getElem?]
    dsimp only
    rw [if_pos hreading, houtput, Bool.not_true]
    generalize houtbox : link.peer.outbox = octets at hanswers hfuel
    cases hanswers with
    | done =>
      have hwaiting : Protocol.Frame.read false [] = .waiting := by
        rw [Protocol.Frame.read, Protocol.Frame.readHeaders_open List.not_mem_nil]
      rw [hwaiting]
      exact ⟨link, h, .refl link, fun _ => ⟨hawaits, houtbox⟩,
        fun hended => absurd hreading (Bool.eq_false_iff.mp hended)⟩
    | broken hfailed =>
      -- the end of the reader closes the table, and nothing of it is awaited any more
      rw [hfailed]
      exact ⟨_, (h.endReader _).1, link.reads_rest link.peer.outbox false,
        fun hreading => absurd hreading Bool.false_ne_true, fun _ => hawaits.endReader h.readers _⟩
    | @message _ _ rest message hmessage hrest =>
      rw [hmessage]
      obtain ⟨link₁, h₁, -, hreads, hreading₁, rfl⟩ := h.handle message rest
      have hsame := same_handle x 0 message link₁.peer.outbox
      have hawaits₁ := (hawaits.handle h.readers message).same hsame.tables hsame.table
      obtain ⟨answers, _, -, hpeer⟩ := hreads.peer
      have houtput₁ : link₁.peer.outputOpen = true := by
        rw [hpeer]
        exact houtput
      have hshorter := length_read hmessage
      obtain ⟨link₂, h₂, hreads₂, hrests⟩ :=
        ih h₁ (hreading₁.trans hreading) houtput₁ hawaits₁ hrest (by omega)
      exact ⟨link₂, h₂, hreads.trans hreads₂, hrests⟩

theorem Alone.read_of_ended (h : x.Alone link) (hended : link.reading = false) (fuel : Nat) :
    Exchange.read 0 fuel x = x := by
  cases fuel with
  | zero => rfl
  | succ fuel =>
    rw [Exchange.read, h.getElem?]
    dsimp only
    rw [if_neg (by rw [hended]; exact Bool.false_ne_true)]

theorem Alone.read_nothing (h : x.Alone link) (houtput : link.peer.outputOpen = true)
    (houtbox : link.peer.outbox = []) (fuel : Nat) : Exchange.read 0 fuel x = x := by
  cases fuel with
  | zero => rfl
  | succ fuel =>
    have hwaiting : Protocol.Frame.read false [] = .waiting := by
      rw [Protocol.Frame.read, Protocol.Frame.readHeaders_open List.not_mem_nil]
    rw [Exchange.read, h.getElem?]
    dsimp only
    rw [houtput, houtbox, Bool.not_true, hwaiting]
    exact ite_self x

theorem Alone.read_message (h : x.Alone link) (hreading : link.reading = true)
    (houtput : link.peer.outputOpen = true)
    (hmessage : Protocol.Frame.read false link.peer.outbox = .message message []) (fuel : Nat) :
    Exchange.read 0 (fuel + 1) x = x.handle 0 message [] := by
  obtain ⟨link₁, h₁, -, ⟨answers, _, -, hpeer⟩, -, houtbox₁⟩ := h.handle message []
  have houtput₁ : link₁.peer.outputOpen = true := by
    rw [hpeer]
    exact houtput
  rw [Exchange.read, h.getElem?]
  dsimp only
  rw [if_pos hreading, houtput, Bool.not_true, hmessage]
  exact h₁.read_nothing houtput₁ houtbox₁ fuel

/-- A server that sends nothing only reads what was written. -/
theorem Alone.settle_nothing (h : x.Alone link) (houtput : link.peer.react.outputOpen = true)
    (houtbox : link.peer.react.outbox = []) : x.settle = x.react.react := by
  rw [h.settle_eq, h.react.1.read_nothing houtput houtbox]

/-- The only message that a server sends is handled. -/
theorem Alone.settle_message (h : x.Alone link) (hreading : link.reading = true)
    (houtput : link.peer.react.outputOpen = true)
    (hmessage : Protocol.Frame.read false link.peer.react.outbox = .message message []) :
    x.settle = (x.react.handle 0 message []).react := by
  rw [h.settle_eq, h.react.1.read_message hreading houtput hmessage]

/-- A server that sends one message on a request has it handled by its reader. -/
theorem Idle.asked_eq_of_reply {config : Server.Config} {machine : Machine} {n : Int}
    {calls : List Json} {script : ServerScript} {method : String} (params : Json)
    (h : x.Idle config machine n calls) (hlink : x.Alone link) (hreading : link.reading = true)
    (houtput : link.peer.outputOpen = true) (houtbox : link.peer.outbox = [])
    (hscript : link.peer.script = [.reply message] :: script)
    (hmethod : method ≠ Request.shutdown.method)
    (hframable : Protocol.Frame.Framable (Peer.complete (.ofInt n) message)) :
    ∃ c : Client, x.issue.client.register n = .ok c ∧ x.asked method params =
      (Exchange.handle (written { x.issue with
          client := c.note ("--> " ++ method ++ " #" ++ Text.Numeral.renderInt n) } 0
        (Protocol.Message.requestJson n method params)).react 0
          (Peer.complete (.ofInt n) message) []).react := by
  obtain ⟨_, hlink', hlistening, hinbox, -⟩ := h.server
  obtain rfl := hlink'.unique hlink
  obtain ⟨c, hsteady, hregister, hdispatch⟩ := h.dispatch_eq (hlink.reading hreading) method params
  have hwritten := (hlink.issue.withClient (hsteady.trans (Client.steady_note c
    ("--> " ++ method ++ " #" ++ Text.Numeral.renderInt n)))).written
      (Protocol.Message.requestJson n method params)
  have hreact : Peer.react { link.peer with
        inbox := link.peer.inbox ++ [Protocol.Message.requestJson n method params] } =
      Peer.act (.ofInt n) [.reply message] { link.peer with
        inbox := [], script := script
        received := link.peer.received ++ [Protocol.Message.requestJson n method params] } :=
    Peer.react_requestJson hlistening.inputOpen (by rw [hinbox]; rfl) hscript hmethod
  have hread := hframable.read_encode false []
  rw [List.append_nil] at hread
  refine ⟨c, hregister, ?_⟩
  rw [Exchange.asked, hdispatch]
  apply hwritten.settle_message hreading
  · exact (congrArg Peer.outputOpen hreact).trans houtput
  · refine (congrArg (fun p => Protocol.Frame.read false p.outbox) hreact).trans ?_
    show Protocol.Frame.read false (link.peer.outbox ++ _) = _
    rw [houtbox]
    exact hread

/-- When a message was written and the server answers it, nothing is awaited in the end. -/
theorem Alone.settle_answers (h : x.Alone link) (hlistening : link.peer.Listening)
    (houtput : link.peer.outputOpen = true) (hinbox : link.peer.inbox = [message])
    (hexit : isExit message = false)
    (hreading : link.reading = true → x.client.Awaits false ids ∧
      Answers ids (link.peer.outbox ++ (Peer.plan link.peer.script message).1.flatMap
        (ServerAction.octets ((message.member? "id").getD .null))))
    (hended : link.reading = false → x.client.Awaits true []) :
    ∃ link', x.settle.Alone link' ∧ x.settle.Rests link' ∧
      (link'.reading = true → link.reading = true) ∧ link'.peer.outputOpen = true ∧
      link'.peer.script = (Peer.plan link.peer.script message).2 := by
  have hreact : link.peer.react = { link.peer with
      inbox := []
      received := link.peer.received ++ [message]
      script := (Peer.plan link.peer.script message).2
      outbox := link.peer.outbox ++ (Peer.plan link.peer.script message).1.flatMap
        (ServerAction.octets ((message.member? "id").getD .null)) } := by
    rw [Peer.react, hinbox, Peer.receiveAll, if_pos hlistening.inputOpen, Peer.receiveAll]
    exact Peer.receive_eq (p := { link.peer with inbox := [] }) hlistening.keepsOpen hexit
  obtain ⟨h₁, -⟩ := h.react
  obtain ⟨link₂, h₂, hreads, hrests, hread⟩ : ∃ link₂,
      (Exchange.read 0 (link.peer.react.outbox.length + 1) x.react).Alone link₂ ∧
      Link.Reads { link with peer := link.peer.react } link₂ ∧
      (Exchange.read 0 (link.peer.react.outbox.length + 1) x.react).Rests link₂ ∧
      (link₂.reading = true → link.reading = true) := by
    rcases Bool.eq_false_or_eq_true link.reading with hstage | hstage
    · obtain ⟨hawaits, hanswers⟩ := hreading hstage
      obtain ⟨link₂, h₂, hreads, hrests⟩ := h₁.read_answers hstage
        (by rw [hreact]; exact houtput) hawaits (by rw [hreact]; exact hanswers)
        (Nat.lt_succ_self _)
      exact ⟨link₂, h₂, hreads, hrests, fun _ => hstage⟩
    · rw [h₁.read_of_ended hstage]
      exact ⟨_, h₁, .refl _, ⟨fun hreading => absurd hreading (Bool.eq_false_iff.mp hstage),
        fun _ => hended hstage⟩, fun hreading => hreading⟩
  obtain ⟨answers, rest, hanswers, hpeer⟩ := hreads.peer
  -- the server only reads responses now, which uses up nothing of its script
  have hlistening₂ : Peer.Listening { link₂.peer with inbox := [] } := by
    rw [hpeer, hreact]
    exact ⟨hlistening.inputOpen, (Peer.keepsOpen_plan hlistening.keepsOpen message).2⟩
  have hreact₂ : link₂.peer.react =
      { link₂.peer with inbox := [], received := link₂.peer.received ++ link₂.peer.inbox } := by
    refine Peer.receiveAll_eq hlistening₂ fun m hm => hanswers m ?_
    rw [hpeer, hreact] at hm
    exact hm
  obtain ⟨h₃, -⟩ := h₂.react
  rw [h.settle_eq]
  refine ⟨_, h₃, ?_, hread, ?_, ?_⟩
  · rw [hreact₂]
    exact hrests
  · rw [hreact₂, hpeer, hreact]
    exact houtput
  · rw [hreact₂, hpeer, hreact]

theorem Rests.exists_outcome (h : x.Rests link) (method : String) (id : Int) :
    ∃ result, ExchangeM.outcome x.client method id = some result := by
  have hwaiting : x.client.isWaiting id = false := by
    rcases Bool.eq_false_or_eq_true link.reading with hreading | hended
    · exact (h.1 hreading).1.not_isWaiting
    · exact (h.2 hended).not_isWaiting
  rw [ExchangeM.outcome]
  cases x.client.replyTo? id with
  | none => exact ⟨_, if_neg (by rw [hwaiting]; exact Bool.false_ne_true)⟩
  | some reply => cases reply <;> exact ⟨_, rfl⟩

/-- The client awaits nothing, and its server will answer the next requests. -/
structure Prompt (x : Exchange) : Prop where
  server : ∃ link, x.Alone link ∧ x.Rests link ∧ link.peer.outputOpen = true ∧
    (link.reading = true → link.peer.script.Answers x.client.nextId)

namespace Prompt

variable {α : Type} {config : Server.Config} {machine : Machine} {n : Int} {calls : List Json}
  {method : String}

theorem steady {c : Client} (h : x.Prompt) (hc : x.client.Steady c)
    (htables : c.tables = x.client.tables) : Prompt { x with client := c } := by
  obtain ⟨link, halone, hrests, houtput, hanswers⟩ := h.server
  refine ⟨link, halone.withClient hc, ⟨fun hreading => ?_, fun hended => ?_⟩, houtput, ?_⟩
  · obtain ⟨hawaits, hread⟩ := hrests.1 hreading
    exact ⟨hawaits.same htables hc.table, hread⟩
  · exact (hrests.2 hended).same htables hc.table
  · rw [hc.nextId]
    exact hanswers

theorem issue (h : x.Prompt) (hclosed : x.client.current.closed = true) : x.issue.Prompt := by
  obtain ⟨link, halone, hrests, houtput, -⟩ := h.server
  refine ⟨link, halone.issue, ⟨fun hreading => ?_, fun hended => ?_⟩, houtput, fun hreading => ?_⟩
  · obtain ⟨hawaits, hread⟩ := hrests.1 hreading
    exact ⟨hawaits.same rfl rfl, hread⟩
  · exact (hrests.2 hended).same rfl rfl
  · exact absurd hclosed (Bool.eq_false_iff.mp (halone.reading hreading))

theorem told (h : x.Prompt) (hidle : x.Idle config machine n calls)
    (hmethod : method ≠ Protocol.exitMethod) (params : Json) :
    (x.told (Message.notificationJson method params)).Prompt := by
  obtain ⟨link, halone, hrests, houtput, hanswers⟩ := h.server
  obtain ⟨link₀, halone₀, hlistening, hinbox, -⟩ := hidle.server
  obtain rfl := halone₀.unique halone
  have hexit : isExit (Message.notificationJson method params) = false :=
    Message.isExit_notificationJson hmethod
  have hnextId : (x.told (Message.notificationJson method params)).client.nextId =
      x.client.nextId :=
    (hidle.told Message.isCall_notificationJson hexit).nextId.trans hidle.nextId.symm
  obtain ⟨link', halone', hrests', hread, houtput', hscript⟩ :=
    (halone.written (Message.notificationJson method params)).settle_answers
      ⟨hlistening.inputOpen, hlistening.keepsOpen⟩ houtput (by rw [hinbox]; rfl) hexit
      (fun hreading => by
        obtain ⟨hawaits, hread⟩ := hrests.1 hreading
        refine ⟨hawaits, ?_⟩
        rw [hread]
        exact .done)
      hrests.2
  refine ⟨link', halone', hrests', houtput', fun hreading => ?_⟩
  rw [hscript, hnextId]
  exact hanswers (hread hreading)

theorem settled (h : x.Prompt) (hidle : x.Idle config machine n calls)
    (hopen : x.client.current.closed = false) (hn : IsEarly n) (method : String) (params : Json) :
    ∃ link', (x.asked method params).Alone link' ∧ (x.asked method params).Rests link' ∧
      link'.peer.outputOpen = true ∧
      (method ≠ Request.shutdown.method → link'.peer.script.Answers (n + 1)) := by
  obtain ⟨link, halone, hrests, houtput, hanswers⟩ := h.server
  obtain ⟨link₀, halone₀, hlistening, hinbox, -⟩ := hidle.server
  obtain rfl := halone₀.unique halone
  have hreading : link.reading = true :=
    (Bool.eq_false_or_eq_true link.reading).resolve_right fun hended =>
      absurd (hrests.2 hended).closed_current (Bool.eq_false_iff.mp hopen)
  obtain ⟨hawaits, hread⟩ := hrests.1 hreading
  have hscript : link.peer.script.Answers n := by
    rw [← hidle.nextId]
    exact hanswers hreading
  obtain ⟨c, hsteady, hregister, hdispatch⟩ := hidle.dispatch_eq hopen method params
  have hnoted : x.issue.client.Steady _ := hsteady.trans
    (Client.steady_note c ("--> " ++ method ++ " #" ++ Text.Numeral.renderInt n))
  have hissued : x.issue.client.Awaits false [] := hawaits.same rfl rfl
  rw [Exchange.asked, hdispatch]
  obtain ⟨link', halone', hrests', -, houtput', hscript'⟩ :=
    ((halone.issue.withClient hnoted).written (Message.requestJson n method params)).settle_answers
      ⟨hlistening.inputOpen, hlistening.keepsOpen⟩ houtput (by rw [hinbox]; rfl)
      Message.isExit_requestJson
      (fun _ => by
        refine ⟨(hissued.register hregister).same rfl rfl, ?_⟩
        rw [hread]
        exact Peer.answers_plan hscript hn method params)
      (fun hended => absurd hreading (Bool.eq_false_iff.mp hended))
  refine ⟨link', halone', hrests', houtput', fun hmethod => ?_⟩
  rw [hscript']
  exact Peer.answers_plan_rest hscript hmethod params

theorem asked (h : x.Prompt) (hidle : x.Idle config machine n calls)
    (hopen : x.client.current.closed = false) (hn : IsEarly n)
    (hmethod : method ≠ Request.shutdown.method) (params : Json) :
    (x.asked method params).Prompt := by
  obtain ⟨link, halone, hrests, houtput, hanswers⟩ := h.settled hidle hopen hn method params
  refine ⟨link, halone, hrests, houtput, fun _ => ?_⟩
  rw [(hidle.asked hopen method params).nextId]
  exact hanswers hmethod

theorem exists_outcome (h : x.Prompt) (hidle : x.Idle config machine n calls)
    (hopen : x.client.current.closed = false) (hn : IsEarly n) (method : String) (params : Json) :
    ∃ result, ExchangeM.outcome (x.asked method params).client method n = some result := by
  obtain ⟨link, -, hrests, -⟩ := h.settled hidle hopen hn method params
  exact hrests.exists_outcome method n

end Prompt

end Exchange

end AnalyzerClient
