import AnalyzerClient.Proofs.Client.Streams
import AnalyzerClient.Proofs.Protocol.Arrival

/-!
# The answers to a server

What a server is owed is known from its messages alone: a message with an id and a method calls for
one response, and no other message calls for any (`Client.owed?`). `Account` follows the reader of a
server through a run: what the reader read, which responses it tried to write and which of these
were written (`Run.account`). A write that fails is one more entry in the account and does not keep
the reader from going on (`exists_goesOn`).
-/

namespace AnalyzerClient

open AnalyzerClient.Protocol (Error Frame.Holds Frame.read Message)

namespace Client

/-- How many items the parameters of a request name. -/
def itemCount (params : Json) : Nat :=
  match params.member "items" with
  | .array items => items.length
  | _ => 0

/-- The response that a message of the server calls for. The message has an id, which may be any
value, and a method that is a text. -/
def owed? (message : Json) : Option Json :=
  match message.member? "id", message.member? "method" with
  | some id, some (.string method) =>
    let result : Json :=
      if method = "workspace/configuration" then
        .array (List.replicate (itemCount (message.member "params")) .null)
      else .null
    some (.mkObject [("jsonrpc", .string "2.0"), ("id", id), ("result", result)])
  | _, _ => none

theorem answerTo_eq (method : String) (params : Json) :
    answerTo method params =
      if method = "workspace/configuration" then .array (List.replicate (itemCount params) .null)
      else .null := by
  have hcount : ((params.member "items").items?.getD []).length = itemCount params := by
    rw [itemCount]
    cases params.member "items" <;> rfl
  simp only [answerTo, configurationMethod, beq_iff_eq, hcount]

theorem ofJson_eq_request {message id params : Json} {method : String} :
    Message.ofJson message = .ok (.request id method params) ↔
      message.member? "id" = some id ∧ message.member? "method" = some (.string method) ∧
        message.member "params" = params := by
  constructor
  · intro h
    simp only [Message.ofJson] at h
    split at h
    · next id' method' hid hmethod =>
      cases h
      obtain ⟨v, hv, hstring⟩ := Option.bind_eq_some_iff.mp hmethod
      cases v with
      | string text =>
        cases hstring
        exact ⟨hid, hv, rfl⟩
      | _ => cases hstring
    · split at h <;> cases h
    · cases h
    · cases h
  · rintro ⟨hid, hmethod, rfl⟩
    simp only [Message.ofJson, hid, hmethod, Option.bind_some, Json.string?]

/-- Nothing but a request calls for a response. -/
theorem owed?_eq_none {message : Json}
    (h : ∀ id method params, Message.ofJson message ≠ .ok (.request id method params)) :
    owed? message = none := by
  rw [owed?]
  split
  · next id method hid hmethod =>
    exact absurd (ofJson_eq_request.mpr ⟨hid, hmethod, rfl⟩) (h id method _)
  · rfl

/-- What the reader is to write for a message is what the message calls for, whatever the state of
the client is. -/
theorem handle_answer (c : Client) (server : Nat) (message : Json) :
    (c.handle server message).2.map (·.message) = owed? message := by
  rw [handle]
  cases hmessage : Message.ofJson message with
  | error violation =>
    rw [owed?_eq_none (by simp [hmessage])]
    rfl
  | ok kind =>
    cases kind with
    | response id result error =>
      rw [owed?_eq_none (by simp [hmessage])]
      rfl
    | notification method params =>
      rw [owed?_eq_none (by simp [hmessage])]
      simp only
      split <;> rfl
    | request id method params =>
      obtain ⟨hid, hmethod, rfl⟩ := ofJson_eq_request.mp hmessage
      simp only [owed?, hid, hmethod, answerTo_eq, Option.map_some, Message.responseJson]

end Client

namespace Traffic

variable {s s₀ s₁ s₂ s' : Traffic} {a : Action} {actions : List Action} {server : Nat}
  {st st₀ st₁ st' : Stream}

/-! ## What the reader of a server does -/

/-- The message that is read. -/
def ReaderAction.read? : ReaderAction → Option Json
  | .read message => some message
  | _ => none

/-- Whether a response is written, where the reader tries to write one. -/
def ReaderAction.attempt? : ReaderAction → Option Bool
  | .answer => some true
  | .answerFails _ => some false
  | _ => none

/-- What the reader of a server does in an action. -/
def Action.ofReader? (server : Nat) : Action → Option ReaderAction
  | .reader i _ action => if i = server then some action else none
  | _ => none

/-- The message that the reader of a server reads in an action. -/
def Action.read? (server : Nat) (a : Action) : Option Json :=
  (a.ofReader? server).bind ReaderAction.read?

/-- Whether a response is written, where the reader of a server tries to write one. -/
def Action.attempt? (server : Nat) (a : Action) : Option Bool :=
  (a.ofReader? server).bind ReaderAction.attempt?

/-- The octets that arrive from a server in an action. -/
def Action.arrived (server : Nat) : Action → List UInt8
  | .arrive i octets => if i = server then octets else []
  | _ => []

theorem ofReader?_self (server t : Nat) (action : ReaderAction) :
    (Action.reader server t action).ofReader? server = some action := if_pos rfl

theorem read?_reader (server t : Nat) (action : ReaderAction) :
    (Action.reader server t action).read? server = action.read? := by
  rw [Action.read?, ofReader?_self]
  rfl

theorem attempt?_reader (server t : Nat) (action : ReaderAction) :
    (Action.reader server t action).attempt? server = action.attempt? := by
  rw [Action.attempt?, ofReader?_self]
  rfl

theorem ofReader?_eq_none (h : ∀ t action, a ≠ .reader server t action) :
    a.ofReader? server = none := by
  cases a with
  | reader i t action =>
    apply if_neg
    rintro rfl
    exact h t action rfl
  | _ => rfl

/-- What the reader of a server is about to write. -/
def ReaderStage.pending : ReaderStage → List Json
  | .answering answer => [answer.message]
  | _ => []

/-- Whether a parcel comes from the reader of a server. -/
def Parcel.isAnswer (server : Nat) (p : Parcel) : Bool :=
  match p.author with
  | .reader i => i == server
  | _ => false

/-- What the reader of a server wrote, the oldest first. -/
def answers (s : Traffic) (server : Nat) : List Parcel := s.parcels.filter (·.isAnswer server)

/-- The parcels of responses to a server. -/
def responses (server : Nat) (messages : List Json) : List Parcel :=
  messages.map fun message => ⟨.reader server, server, message⟩

theorem answers_append_responses (messages : List Json)
    (hparcels : s'.parcels = s.parcels ++ responses server messages) :
    s'.answers server = s.answers server ++ responses server messages := by
  have hall : ∀ p ∈ responses server messages, p.isAnswer server = true := by
    intro p hp
    obtain ⟨message, -, rfl⟩ := List.mem_map.mp hp
    exact beq_self_eq_true server
  rw [answers, hparcels, List.filter_append, List.filter_eq_self.mpr hall, answers]

/-- Nobody but the reader of a server writes responses to it. -/
theorem Step.answers_eq (h : Step s a s') (hother : ∀ t action, a ≠ .reader server t action) :
    s'.answers server = s.answers server := by
  have other {p : Parcel} (hp : p.isAnswer server = false) :
      (s.parcels ++ [p]).filter (·.isAnswer server) = s.answers server := by
    rw [List.filter_append, List.filter_cons_of_neg (by rw [hp]; nofun), List.filter_nil,
      List.append_nil, answers]
  cases h with
  | notify => exact other rfl
  | call hcalled hstep =>
    cases hstep with
    | write => exact other rfl
    | _ => rw [answers, List.append_nil, answers]
  | @reader i st st' action c parcels hstream hstep =>
    have hi : i ≠ server := by
      rintro rfl
      exact hother _ _ rfl
    cases hstep with
    | answer => exact other (beq_false_of_ne hi)
    | _ => rw [answers, List.append_nil, answers]
  | owner hstep =>
    cases hstep with
    | acknowledge | sayExit => exact other rfl
    | _ => rfl
  | begin | turnAway | notifyFails | arrive | hangUp => rfl

/-- What a server sent and nobody has read grows at its end, unless the reader reads. -/
theorem Step.octets_eq (h : Step s a s') (hst : s.streams[server]? = some st)
    (hst' : s'.streams[server]? = some st') (hother : ∀ t action, a ≠ .reader server t action) :
    st'.octets = st.octets ++ a.arrived server := by
  have hlt := (List.getElem?_eq_some_iff.mp hst).1
  -- a stream that did not change, or another one that did
  have kept (hkept : s'.streams[server]? = some st) (ha : a.arrived server = []) :
      st'.octets = st.octets ++ a.arrived server := by
    cases hkept.symm.trans hst'
    rw [ha, List.append_nil]
  cases h with
  | @arrive i st₁ octets hstream hopened =>
    by_cases hi : i = server
    · subst hi
      cases hstream.symm.trans hst
      cases (List.getElem?_set_self hlt).symm.trans hst'
      rw [Action.arrived, if_pos rfl]
    · exact kept (by rw [List.getElem?_set_ne hi, hst]) (if_neg hi)
  | @hangUp i st₁ hstream =>
    by_cases hi : i = server
    · subst hi
      cases hstream.symm.trans hst
      cases (List.getElem?_set_self hlt).symm.trans hst'
      exact (List.append_nil st.octets).symm
    · exact kept (by rw [List.getElem?_set_ne hi, hst]) rfl
  | @reader i st₁ st₂ action c parcels hstream hstep =>
    have hi : i ≠ server := by
      rintro rfl
      exact hother _ _ rfl
    exact kept (by rw [List.getElem?_set_ne hi, hst]) rfl
  | owner hstep =>
    cases hstep with
    | attach => exact kept (by rw [List.getElem?_append_left hlt, hst]) rfl
    | detach =>
      rw [List.getElem?_map, hst] at hst'
      cases hst'
      exact (List.append_nil st.octets).symm
    | _ => exact kept hst rfl
  | begin | turnAway | notify | notifyFails | call => exact kept hst rfl

theorem read?_eq_none (h : ∀ t action, a ≠ .reader server t action) : a.read? server = none := by
  rw [Action.read?, ofReader?_eq_none h]
  rfl

theorem filterMap_cons_eq {α β : Type} (f : α → Option β) (a : α) (as : List α) :
    (a :: as).filterMap f = (f a).toList ++ as.filterMap f := by
  rw [List.filterMap_cons]
  cases f a <;> rfl

theorem filterMap_concat {α β : Type} (f : α → Option β) (as : List α) (a : α) :
    (as ++ [a]).filterMap f = as.filterMap f ++ (f a).toList := by
  rw [List.filterMap_append, filterMap_cons_eq, List.filterMap_nil, List.append_nil]

/-- What the reader of a server does to the responses: it reads a message, it tries to write the
response that it is about to write, or it does something else with no response to write. -/
theorem ReaderStep.responses {c c' : Client} {action : ReaderAction} {parcels : List Parcel}
    (h : ReaderStep server c st action c' st' parcels) :
    ∃ (tries : List (Json × Bool)) (left : List Json),
      Frame.Holds st.octets action.read?.toList st'.octets ∧
      st.stage.pending ++ action.read?.toList.filterMap Client.owed? = tries.map (·.1) ++ left ∧
      tries.map (·.2) = action.attempt?.toList ∧
      parcels = Traffic.responses server ((tries.filter (·.2)).map (·.1)) ∧
      (left = st'.stage.pending ∨ st'.stage = .aborted ∧ left.length ≤ 1) := by
  cases h with
  | @read message rest c' answer hstage hreading hhandle =>
    have howed := Client.handle_answer c server message
    rw [hhandle] at howed
    refine ⟨[], (Client.owed? message).toList, .single hreading, ?_, rfl, rfl, .inl ?_⟩
    · rw [hstage]
      exact filterMap_concat Client.owed? [] message
    · rw [← howed]
      cases answer <;> rfl
  | @answer answer hstage =>
    refine ⟨[(answer.message, true)], [], .nil _, ?_, rfl, rfl, .inl rfl⟩
    rw [hstage]
    rfl
  | @answerFails answer e hstage =>
    refine ⟨[(answer.message, false)], [], .nil _, ?_, rfl, rfl, .inl rfl⟩
    rw [hstage]
    rfl
  | vanish hdoomed hstage =>
    refine ⟨[], st.stage.pending, .nil _, List.append_nil _, rfl, rfl, .inr ⟨rfl, ?_⟩⟩
    rcases hstage with hstage | ⟨answer, hstage⟩
    · rw [hstage]
      exact Nat.zero_le 1
    · rw [hstage]
      exact Nat.le_refl 1
  | leave hstage | breakDown hstage | close hstage | expect hstage | condemn hstage | fail hstage
  | tell hstage =>
    refine ⟨[], [], .nil _, ?_, rfl, rfl, .inl rfl⟩
    rw [hstage]
    rfl

/-! ## The account of a reader -/

/-- The account of the reader of a server after the given actions: with which responses it came to
an attempt to write them, whether these were written, and which response is left. -/
structure Account (server : Nat) (s₀ : Traffic) (st₀ : Stream) (actions : List Action) (s : Traffic)
    (st : Stream) (tries : List (Json × Bool)) (left : List Json) : Prop where
  stream : s.streams[server]? = some st
  holds : Frame.Holds (st₀.octets ++ actions.flatMap (·.arrived server))
    (actions.filterMap (·.read? server)) st.octets
  owed : st₀.stage.pending ++ (actions.filterMap (·.read? server)).filterMap Client.owed? =
    tries.map (·.1) ++ left
  attempts : tries.map (·.2) = actions.filterMap (·.attempt? server)
  written : s.answers server =
    s₀.answers server ++ responses server ((tries.filter (·.2)).map (·.1))
  /-- A reader that is stopped from outside may leave a response unwritten. -/
  left : left = st.stage.pending ∨ st.stage = .aborted ∧ left.length ≤ 1

namespace Account

variable {tries : List (Json × Bool)} {left : List Json}

theorem refl (hst : s.streams[server]? = some st) :
    Account server s st [] s st [] st.stage.pending where
  stream := hst
  holds := by
    rw [List.flatMap_nil, List.append_nil]
    exact .nil st.octets
  owed := by rw [List.filterMap_nil, List.filterMap_nil, List.append_nil]; rfl
  attempts := rfl
  written := (List.append_nil _).symm
  left := .inl rfl

/-- One more action: what is read in it, the responses `new` that it tries to write, and the
response that is left behind it. -/
theorem concat (H : Account server s₀ st₀ actions s st tries left) {new : List (Json × Bool)}
    {left' : List Json} (hstream : s'.streams[server]? = some st')
    (hholds : Frame.Holds (st.octets ++ a.arrived server) (a.read? server).toList st'.octets)
    (howed : left ++ (a.read? server).toList.filterMap Client.owed? = new.map (·.1) ++ left')
    (hattempts : new.map (·.2) = (a.attempt? server).toList)
    (hwritten : s'.answers server =
      s.answers server ++ responses server ((new.filter (·.2)).map (·.1)))
    (hleft : left' = st'.stage.pending ∨ st'.stage = .aborted ∧ left'.length ≤ 1) :
    Account server s₀ st₀ (actions ++ [a]) s' st' (tries ++ new) left' where
  stream := hstream
  holds := by
    rw [filterMap_concat, List.flatMap_append, ← List.append_assoc]
    apply (H.holds.append _).trans
    rw [List.flatMap_singleton]
    exact hholds
  owed := by
    rw [filterMap_concat, List.filterMap_append, ← List.append_assoc, H.owed, List.append_assoc,
      howed, List.map_append, List.append_assoc]
  attempts := by rw [List.map_append, H.attempts, hattempts, filterMap_concat]
  written := by
    rw [hwritten, H.written, List.filter_append, List.map_append, responses, responses, responses,
      List.map_append, List.append_assoc]
  left := hleft

/-- An action that is not of the reader. -/
theorem rests (H : Account server s₀ st₀ actions s st tries left)
    (hstream : s'.streams[server]? = some st')
    (hoctets : st'.octets = st.octets ++ a.arrived server)
    (hstage : st'.stage = st.stage) (hother : ∀ t action, a ≠ .reader server t action)
    (hanswers : s'.answers server = s.answers server) :
    Account server s₀ st₀ (actions ++ [a]) s' st' tries left := by
  have hread := read?_eq_none hother
  have hattempt : a.attempt? server = none := by rw [Action.attempt?, ofReader?_eq_none hother]; rfl
  have H' : Account server s₀ st₀ (actions ++ [a]) s' st' (tries ++ []) left := by
    apply H.concat hstream
    · rw [hread, hoctets]
      exact .nil _
    · rw [hread]
      exact List.append_nil left
    · rw [hattempt]
      rfl
    · rw [hanswers]
      exact (List.append_nil _).symm
    · rw [hstage]
      exact H.left
  rwa [List.append_nil] at H'

/-- An action of the reader. The response that is left is the one that it is about to write, until
it is stopped from outside. -/
theorem reads {action : ReaderAction} {c : Client} {parcels : List Parcel}
    (H : Account server s₀ st₀ actions s st tries left)
    (h : ReaderStep server s.client st action c st' parcels)
    (hstream : s'.streams[server]? = some st') (hparcels : s'.parcels = s.parcels ++ parcels)
    (t : Nat) : ∃ tries left,
      Account server s₀ st₀ (actions ++ [.reader server t action]) s' st' tries left := by
  have hdone : st.stage ≠ .aborted := by
    intro hstage
    have hnot := h.not_isDone
    rw [hstage] at hnot
    cases hnot
  have hleft : left = st.stage.pending := H.left.resolve_right fun hstage => hdone hstage.1
  obtain ⟨new, left', hholds, howed, hattempts, hwritten, hleft'⟩ := h.responses
  refine ⟨tries ++ new, left', H.concat hstream ?_ ?_ ?_ ?_ hleft'⟩
  · rw [read?_reader]
    exact (List.append_nil st.octets).symm ▸ hholds
  · rw [read?_reader, hleft, howed]
  · rw [attempt?_reader, hattempts]
  · rw [hwritten] at hparcels
    exact answers_append_responses _ hparcels

theorem step (H : Account server s₀ st₀ actions s st tries left) (h : Step s a s') :
    ∃ st tries left, Account server s₀ st₀ (actions ++ [a]) s' st tries left := by
  by_cases hown : ∃ t action, a = .reader server t action
  · obtain ⟨t, action, rfl⟩ := hown
    cases h with
    | @reader _ st₁ st₂ _ c parcels hstream hstep =>
      cases hstream.symm.trans H.stream
      have hlt := (List.getElem?_eq_some_iff.mp hstream).1
      exact ⟨st₂, H.reads hstep (List.getElem?_set_self hlt) rfl _⟩
  · have hother : ∀ t action, a ≠ .reader server t action := by
      intro t action ha
      exact hown ⟨t, action, ha⟩
    obtain ⟨st', hst', hevolves⟩ := h.stream_cases H.stream
    have hstage : st'.stage = st.stage := by
      cases hevolves with
      | rests _ hstage => exact hstage
      | dooms _ hstage => exact hstage
      | reads ha => exact absurd ha (hother _ _)
    have hoctets := h.octets_eq H.stream hst' hother
    exact ⟨st', tries, left, H.rests hst' hoctets hstage hother (h.answers_eq hother)⟩

end Account

theorem Run.account (h : Run s actions s') (hst : s.streams[server]? = some st) :
    ∃ st' tries left, Account server s st actions s' st' tries left := by
  refine h.induct (P := fun before s₁ => ∃ st' tries left,
    Account server s st before s₁ st' tries left) ⟨st, [], _, .refl hst⟩ ?_
  rintro before s₁ a s₂ ⟨st₁, tries, left, H⟩ _ hstep
  exact H.step hstep

/-! ## Going on -/

/-- The reader of a server goes on by itself: it reads the messages, its attempts to write come out
as the outcomes say, where an error is a write that fails, and it comes to the stream `st`. -/
structure GoesOn (server : Nat) (s : Traffic) (messages : List Json)
    (outcomes : List (Option Error)) (actions : List Action) (s' : Traffic) (st : Stream) :
    Prop where
  run : Run s actions s'
  own : ∀ a ∈ actions, ∃ t action, a = .reader server t action
  reads : actions.filterMap (·.read? server) = messages
  attempts : actions.filterMap (·.attempt? server) = outcomes.map (·.isNone)
  stream : s'.streams[server]? = some st

namespace GoesOn

variable {messages messages' : List Json} {outcomes outcomes' : List (Option Error)}
  {rest : List UInt8}

theorem append {before after : List Action} (h : GoesOn server s messages outcomes before s₁ st₁)
    (h' : GoesOn server s₁ messages' outcomes' after s' st') :
    GoesOn server s (messages ++ messages') (outcomes ++ outcomes') (before ++ after) s' st' where
  run := h.run.append h'.run
  own := by
    intro a ha
    rcases List.mem_append.mp ha with ha | ha
    · exact h.own a ha
    · exact h'.own a ha
  reads := by rw [List.filterMap_append, h.reads, h'.reads]
  attempts := by rw [List.filterMap_append, h.attempts, h'.attempts, List.map_append]
  stream := h'.stream

theorem single {action : ReaderAction} {c : Client} {parcels : List Parcel}
    (hst : s.streams[server]? = some st) (h : ReaderStep server s.client st action c st' parcels)
    (outcomes : List (Option Error))
    (houtcomes : action.attempt?.toList = outcomes.map (·.isNone)) :
    ∃ actions s', GoesOn server s action.read?.toList outcomes actions s' st' := by
  have hlt := (List.getElem?_eq_some_iff.mp hst).1
  refine ⟨[.reader server (s.client.tableOf server) action], _, .step (.reader hst h) (.done _),
    ?_, ?_, ?_, List.getElem?_set_self hlt⟩
  · intro a ha
    exact ⟨_, action, List.mem_singleton.mp ha⟩
  · rw [filterMap_cons_eq, read?_reader]
    exact List.append_nil _
  · rw [filterMap_cons_eq, attempt?_reader, ← houtcomes]
    exact List.append_nil _

/-- A message is read, and its response is dealt with, if it calls for one. -/
theorem message {message : Json} (hst : s.streams[server]? = some st)
    (hreading : st.stage = .reading) (hread : Frame.read st.ended st.octets = .message message rest)
    (hlength : outcomes.length = (Client.owed? message).toList.length) :
    ∃ actions s', GoesOn server s [message] outcomes actions s' { st with octets := rest } := by
  have howed := Client.handle_answer s.client server message
  obtain ⟨c, answer, hhandle⟩ : ∃ c answer, s.client.handle server message = (c, answer) :=
    ⟨_, _, rfl⟩
  rw [hhandle] at howed
  rw [← howed] at hlength
  have hread := ReaderStep.read hreading hread hhandle
  have hstage : { st with octets := rest } = { st with octets := rest, stage := .reading } := by
    rw [← hreading]
  cases answer with
  | none =>
    obtain rfl : outcomes = [] := List.eq_nil_of_length_eq_zero hlength
    rw [hstage]
    exact single hst hread [] rfl
  | some answer =>
    obtain ⟨outcome, rfl⟩ := List.length_eq_one_iff.mp hlength
    obtain ⟨before, s₁, h₁⟩ := single hst hread [] rfl
    have hafter :
        ∃ after s', GoesOn server s₁ [] [outcome] after s' { st with octets := rest } := by
      rw [hstage]
      cases outcome with
      | none => exact single h₁.stream (.answer rfl) [none] rfl
      | some e => exact single h₁.stream (.answerFails e rfl) [some e] rfl
    obtain ⟨after, s', h₂⟩ := hafter
    exact ⟨before ++ after, s', h₁.append h₂⟩

end GoesOn

/-- The reader can read what stands in front of it, whichever writes fail. -/
theorem exists_goesOn {messages : List Json} {octets rest : List UInt8}
    (hholds : Frame.Holds octets messages rest) (hst : s.streams[server]? = some st)
    (hoctets : st.octets = octets) (hreading : st.stage = .reading)
    {outcomes : List (Option Error)}
    (hlength : outcomes.length = (messages.filterMap Client.owed?).length) :
    ∃ actions s', GoesOn server s messages outcomes actions s' { st with octets := rest } := by
  induction hholds generalizing s st outcomes with
  | nil octets =>
    obtain rfl : outcomes = [] := List.eq_nil_of_length_eq_zero hlength
    subst hoctets
    exact ⟨[], s, .done s, nofun, rfl, rfl, hst⟩
  | @cons closed octets rest₁ rest message messages first later ih =>
    have hread : Frame.read st.ended st.octets = .message message rest₁ :=
      hoctets ▸ Protocol.Frame.read_of_message first st.ended
    -- the outcomes of the first message, and those of the others
    rw [filterMap_cons_eq, List.length_append] at hlength
    obtain ⟨before, s₁, h₁⟩ := GoesOn.message hst hreading hread
      (List.length_take_of_le (Nat.le.intro hlength.symm))
    obtain ⟨after, s', h₂⟩ := ih h₁.stream rfl hreading (by
      rw [List.length_drop]
      exact Nat.sub_eq_of_eq_add' hlength)
    have h := h₁.append h₂
    rw [List.take_append_drop] at h
    exact ⟨before ++ after, s', h⟩

/-- Whatever the client and the reader of a server go through, from a state where the reader is to
read: it reads the messages that stand in what the server sent, one behind the other. Those that
call for a response are dealt with in their order, and each of them once: the response is written
or the write fails. At most the last one is still to be written, or is never written when the reader
is stopped from outside. What is written to the server by its reader is just the responses of the
writes that did not fail. Nothing of this keeps the reader from going on: whichever writes fail, it
can read all the messages that stand there. -/
theorem answers_once {server : Nat} {s : Traffic} {st : Stream}
    (hst : s.streams[server]? = some st) (hreading : st.stage = .reading) :
    (∀ actions s', Run s actions s' →
      ∃ (st' : Stream) (tries : List (Json × Bool)) (left : List Json),
        s'.streams[server]? = some st' ∧
        Frame.Holds (st.octets ++ actions.flatMap (·.arrived server))
          (actions.filterMap (·.read? server)) st'.octets ∧
        (actions.filterMap (·.read? server)).filterMap Client.owed? = tries.map (·.1) ++ left ∧
        (left = st'.stage.pending ∨ st'.stage = .aborted ∧ left.length ≤ 1) ∧
        tries.map (·.2) = actions.filterMap (·.attempt? server) ∧
        s'.answers server =
          s.answers server ++ responses server ((tries.filter (·.2)).map (·.1))) ∧
    ∀ messages rest, Frame.Holds st.octets messages rest →
      ∀ outcomes : List (Option Error),
        outcomes.length = (messages.filterMap Client.owed?).length →
        ∃ actions s', Run s actions s' ∧ (∀ a ∈ actions, ∃ t action, a = .reader server t action) ∧
          actions.filterMap (·.read? server) = messages ∧
          actions.filterMap (·.attempt? server) = outcomes.map (·.isNone) ∧
          s'.streams[server]? = some { st with octets := rest } := by
  constructor
  · intro actions s' h
    obtain ⟨st', tries, left, H⟩ := h.account hst
    have howed := H.owed
    rw [hreading] at howed
    exact ⟨st', tries, left, H.stream, H.holds, howed, H.left, H.attempts, H.written⟩
  · intro messages rest hholds outcomes hlength
    obtain ⟨actions, s', h⟩ := exists_goesOn hholds hst rfl hreading hlength
    exact ⟨actions, s', h.run, h.own, h.reads, h.attempts, h.stream⟩

/-- The reader of a first server with these octets in front of it. -/
def listening (octets : List UInt8) : Traffic :=
  { initial (.analyzer "wa") with streams := [{ Stream.fresh with octets := octets }] }

/-- A question for two items of the configuration whose id is null, a notification, and a request
that the client does not know. -/
def questions : List Json :=
  [.mkObject [("id", .null), ("method", .string "workspace/configuration"),
      ("params", .mkObject [("items", .array [.null, .null])])],
    .mkObject [("method", .string "telemetry/event")],
    .mkObject [("id", .string "a"), ("method", .string "window/showDocument")]]

theorem framable_questions : ∀ v ∈ questions, Protocol.Frame.Framable v := by
  have object {members : List (String × Json)} (h : ∀ p ∈ members, p.2.Proper ∧ p.2.Integral) :
      (Json.mkObject members).Proper ∧ (Json.mkObject members).Integral :=
    ⟨Json.proper_mkObject fun p hp => (h p hp).1, Json.integral_mkObject fun p hp => (h p hp).2⟩
  intro v hv
  have hproper : v.Proper ∧ v.Integral := by
    simp only [questions, List.mem_cons, List.not_mem_nil, or_false] at hv
    rcases hv with rfl | rfl | rfl
    · apply object
      simp only [List.forall_mem_cons]
      refine ⟨⟨trivial, trivial⟩, ⟨trivial, trivial⟩, object ?_, nofun⟩
      simp only [List.forall_mem_cons]
      exact ⟨⟨⟨trivial, trivial, trivial⟩, trivial, trivial, trivial⟩, nofun⟩
    · apply object
      simp only [List.forall_mem_cons]
      exact ⟨⟨trivial, trivial⟩, nofun⟩
    · apply object
      simp only [List.forall_mem_cons]
      exact ⟨⟨trivial, trivial⟩, ⟨trivial, trivial⟩, nofun⟩
  have hsize : ∀ v ∈ questions, v.depth ≤ Json.Draft.maxDepth ∧
      4 * v.compactChars.length < Protocol.Frame.maxLength := by decide +kernel
  exact ⟨hproper.1, hproper.2, (hsize v hv).1,
    Protocol.Frame.length_encode_compact_lt (hsize v hv).2⟩

/-- The first response cannot be written, and the second one is. -/
theorem answers_once_questions :
    Frame.Holds (Protocol.Frame.stream questions) questions [] ∧
      ∃ actions s', Run (listening (Protocol.Frame.stream questions)) actions s' ∧
        actions.filterMap (·.read? 0) = questions ∧
        s'.answers 0 = responses 0 [.mkObject
          [("jsonrpc", .string "2.0"), ("id", .string "a"), ("result", .null)]] := by
  have hholds : Frame.Holds (Protocol.Frame.stream questions) questions [] := by
    have hholds := Frame.Holds.of_stream framable_questions []
    rwa [List.append_nil] at hholds
  have howed : questions.filterMap Client.owed? =
      [.mkObject [("jsonrpc", .string "2.0"), ("id", .null), ("result", .array [.null, .null])],
        .mkObject [("jsonrpc", .string "2.0"), ("id", .string "a"), ("result", .null)]] := by
    rfl
  have hst : (listening (Protocol.Frame.stream questions)).streams[0]? =
      some { Stream.fresh with octets := Protocol.Frame.stream questions } := rfl
  obtain ⟨hevery, hgoes⟩ := answers_once hst rfl
  obtain ⟨actions, s', hrun, -, hreads, hattempts, hst'⟩ :=
    hgoes questions [] hholds [some .notRunning, none] (by rw [howed]; rfl)
  refine ⟨hholds, actions, s', hrun, hreads, ?_⟩
  obtain ⟨st₁, tries, left, hst₁, -, htries, hleft, hresults, hanswers⟩ := hevery actions s' hrun
  cases hst₁.symm.trans hst'
  -- the reader is back where it was, so that no response is left
  obtain rfl : left = [] := hleft.resolve_right nofun
  rw [hreads, howed, List.append_nil] at htries
  rw [hattempts] at hresults
  rw [hanswers, List.zip_of_prod htries.symm hresults]
  rfl

end Traffic

end AnalyzerClient
