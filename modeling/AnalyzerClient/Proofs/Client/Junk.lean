import AnalyzerClient.Client.Exchange
import AnalyzerClient.Proofs.Client.Answers
import AnalyzerClient.Proofs.Client.Twins
import AnalyzerClient.Proofs.Json.TooDeep

/-!
# Messages that mean nothing

A server may send values that the client has no use for (`Client.Junk`). The reader passes over
them: but for a line in the log they change nothing (`Client.Junk.handle`). A run of a client whose
server sends junk somewhere in its stream is therefore a run without the junk in which the reader
makes one action less, and the other way round (`junk_invisible`). What cannot be read as a value is
not junk: it ends the reader (`deep_visible`).
-/

namespace AnalyzerClient

open AnalyzerClient.Protocol (Error Frame.Holds Frame.encode Frame.read Message Notice)

namespace Client

variable {c d : Client} {server : Nat} {v : Json}

/-- The methods of the notifications that the client tells. -/
def noticeMethods : List String :=
  [Notice.diagnosticsMethod, Notice.progressMethod, Notice.logMethod, Notice.showMethod,
    Notice.statusMethod]

/-- A value has no method, or one that is no text. -/
def Nameless (v : Json) : Prop := ∀ method, v.member? "method" ≠ some (.string method)

/-- The values that mean nothing to the reader of a server. -/
inductive Junk (c : Client) (server : Nat) (v : Json) : Prop
  | noObject (shape : v.isObject = false)
  | unknown (id : v.member? "id" = none) (method : Nameless v)
  /-- A response to no request: its id is no number of a request. -/
  | strange {id : Json} (member : v.member? "id" = some id) (method : Nameless v)
      (number : id.int64? = none)
  /-- A response to a request that does not await one. -/
  | unexpected {id : Json} {n : Int} (member : v.member? "id" = some id) (method : Nameless v)
      (number : id.int64? = some n) (absent : c.isWaitingIn (c.tableOf server) n = false)
  | unhandled {method : String} (id : v.member? "id" = none)
      (member : v.member? "method" = some (.string method)) (unhandled : method ∉ noticeMethods)
  /-- A notification that the client would tell if its parameters had the right shape. -/
  | undecodable {method : String} (id : v.member? "id" = none)
      (member : v.member? "method" = some (.string method))
      (params : Notice.ofNotification? method (v.member "params") = none)

theorem Nameless.bind_string? (h : Nameless v) : (v.member? "method").bind Json.string? = none := by
  cases hmember : v.member? "method" with
  | none => rfl
  | some method =>
    cases method with
    | string method => exact absurd hmember (h method)
    | _ => rfl

theorem ofNotification?_of_not_mem {method : String} (h : method ∉ noticeMethods) (params : Json) :
    Notice.ofNotification? method params = none := by
  simp only [noticeMethods, List.mem_cons, List.not_mem_nil, or_false, not_or] at h
  obtain ⟨hdiagnostics, hprogress, hlog, hshow, hstatus⟩ := h
  simp [Notice.ofNotification?, hdiagnostics, hprogress, hlog, hshow, hstatus]

theorem member?_of_isObject (h : v.isObject = false) (key : String) : v.member? key = none := by
  cases v with
  | object members => cases h
  | _ => rfl

/-- Junk is no message, a response that nobody awaits, or a notification that is no notice. -/
theorem Junk.ofJson (h : Junk c server v) :
    (∃ violation, Message.ofJson v = .error violation) ∨
      (∃ n result error, Message.ofJson v = .ok (.response n result error) ∧
        c.isWaitingIn (c.tableOf server) n = false) ∨
      ∃ method params, Message.ofJson v = .ok (.notification method params) ∧
        Notice.ofNotification? method params = none := by
  cases h with
  | noObject hshape =>
    refine .inl ⟨.unknownMessage, ?_⟩
    simp only [Message.ofJson, member?_of_isObject hshape, Option.bind_none]
  | unknown hid hmethod =>
    refine .inl ⟨.unknownMessage, ?_⟩
    simp only [Message.ofJson, hid, hmethod.bind_string?]
  | @strange id hmember hmethod hnumber =>
    refine .inl ⟨.responseId id, ?_⟩
    simp only [Message.ofJson, hmember, hmethod.bind_string?, hnumber]
  | @unexpected id n hmember hmethod hnumber habsent =>
    refine .inr (.inl ⟨n, v.member? "result", (v.member? "error").map Message.errorOf, ?_, habsent⟩)
    simp only [Message.ofJson, hmember, hmethod.bind_string?, hnumber]
  | @unhandled method hid hmember hunhandled =>
    refine .inr (.inr ⟨method, v.member "params", ?_, ofNotification?_of_not_mem hunhandled _⟩)
    simp only [Message.ofJson, hid, hmember, Option.bind_some, Json.string?]
  | @undecodable method hid hmember hparams =>
    refine .inr (.inr ⟨method, v.member "params", ?_, hparams⟩)
    simp only [Message.ofJson, hid, hmember, Option.bind_some, Json.string?]

/-- Junk changes nothing but the log, and nothing is to be written. -/
theorem Junk.handle (h : Junk c server v) :
    ∃ log, c.handle server v = (c.withLog log, none) := by
  obtain ⟨log, htrace⟩ := alike_trace c v
  rw [Client.handle, htrace]
  rcases h.ofJson with ⟨violation, hv⟩ | ⟨n, result, error, hv, habsent⟩ |
    ⟨method, params, hv, hnone⟩
  · simp only [hv]
    exact ⟨_, rfl⟩
  · have habsent' : (c.withLog log).isWaitingIn ((c.withLog log).tableOf server) n = false :=
      habsent
    simp only [hv, handleResponse, habsent']
    exact ⟨_, rfl⟩
  · simp only [hv, hnone]
    exact ⟨log, rfl⟩

end Client

namespace Traffic

variable {s s' t t' : Traffic} {a : Action} {actions : List Action} {server : Nat}
  {st st' st₂ st₂' : Stream} {c c' : Client} {action : ReaderAction} {parcels : List Parcel}
  {junk : List UInt8} {v : Json} {messages : List Json}

/-! ## Junk in a stream -/

/-- The octets of the junk stand in the first stream, behind the messages, and not in the second. -/
inductive Inserted (junk : List UInt8) (messages : List Json) (st : Stream) : Stream → Prop
  | intro {front back : List UInt8} (holds : Frame.Holds front messages [])
      (octets : st.octets = front ++ (junk ++ back)) :
      Inserted junk messages st { st with octets := front ++ back }

theorem steady_inserted : Steady (Inserted junk messages) where
  ended := by
    rintro st _ ⟨hfront, hoctets⟩
    rfl
  arrive := by
    intro st st₂ octets H
    cases H with
    | @intro front back hfront hoctets =>
      have hoctets' : st.octets ++ octets = front ++ (junk ++ (back ++ octets)) := by
        rw [hoctets, List.append_assoc, List.append_assoc]
      rw [List.append_assoc]
      exact .intro hfront hoctets'
  hangUp := by
    rintro st _ ⟨hfront, hoctets⟩
    exact .intro hfront hoctets
  doom := by
    rintro st _ ⟨hfront, hoctets⟩
    exact .intro hfront hoctets

/-- The message in front is the same in both streams. -/
theorem Inserted.read_front {message : Json} (H : Inserted junk (message :: messages) st st₂) :
    ∃ rest rest₂, Frame.read st.ended st.octets = .message message rest ∧
      Frame.read st₂.ended st₂.octets = .message message rest₂ ∧
      ∀ stage, Inserted junk messages { st with octets := rest, stage := stage }
        { st₂ with octets := rest₂, stage := stage } := by
  cases H with
  | @intro front back hholds hoctets =>
    cases hholds with
    | @cons closed _ front' _ _ _ first later =>
      refine ⟨front' ++ (junk ++ back), front' ++ back, ?_, ?_, fun stage => .intro later rfl⟩
      · rw [hoctets]
        exact Protocol.Frame.read_append first st.ended _
      · exact Protocol.Frame.read_append first st.ended _

/-- Behind the messages the junk is read, and then the streams are the same. -/
theorem Inserted.read_junk (hjunk : Frame.read true junk = .message v [])
    (H : Inserted junk [] st st₂) : Frame.read st.ended st.octets = .message v st₂.octets := by
  cases H with
  | @intro front back hholds hoctets =>
    cases hholds with
    | nil =>
      rw [hoctets]
      exact Protocol.Frame.read_append hjunk st.ended back

theorem Inserted.eq_with (H : Inserted junk messages st st₂) :
    st₂ = { st with octets := st₂.octets } ∧ st = { st₂ with octets := st.octets } := by
  cases H
  exact ⟨rfl, rfl⟩

/-- The reader goes on to something else, with the same octets. -/
theorem Inserted.goOn (H : Inserted junk messages st st₂) (st' : Stream) :
    Inserted junk messages { st' with octets := st.octets }
      { st' with octets := st₂.octets } := by
  cases H with
  | intro hholds hoctets => exact .intro hholds hoctets

/-- A reader that does not take a message from the octets of its stream does not depend on them. -/
theorem ReaderStep.octets_cases (h : ReaderStep server c st action c' st' parcels) :
    (∃ message rest answer, action = .read message ∧ st.stage = .reading ∧
      Frame.read st.ended st.octets = .message message rest ∧
      c.handle server message = (c', answer) ∧
      st' = { st with octets := rest, stage := answer.elim .reading .answering } ∧ parcels = []) ∨
    (st.stage = .reading ∧ ∀ message rest, Frame.read st.ended st.octets ≠ .message message rest) ∨
    (action.read? = none ∧ st'.octets = st.octets ∧ ∀ octets : List UInt8,
      ReaderStep server c { st with octets := octets } action c' { st' with octets := octets }
        parcels) := by
  cases h with
  | @read message rest _ answer hstage hreading hhandle =>
    exact .inl ⟨message, rest, answer, rfl, hstage, hreading, hhandle, rfl, rfl⟩
  | leave hstage hends =>
    cases hends with
    | finished hreading => exact .inr (.inl ⟨hstage, by rw [hreading]; nofun⟩)
    | failed hreading => exact .inr (.inl ⟨hstage, by rw [hreading]; nofun⟩)
    | unreadable cause => exact .inr (.inr ⟨rfl, rfl, fun _ => .leave hstage (.unreadable cause)⟩)
  | breakDown hstage hreading => exact .inr (.inl ⟨hstage, by rw [hreading]; nofun⟩)
  | answer hstage => exact .inr (.inr ⟨rfl, rfl, fun _ => .answer hstage⟩)
  | answerFails e hstage => exact .inr (.inr ⟨rfl, rfl, fun _ => .answerFails e hstage⟩)
  | close hstage => exact .inr (.inr ⟨rfl, rfl, fun _ => .close hstage⟩)
  | expect hstage hexpected => exact .inr (.inr ⟨rfl, rfl, fun _ => .expect hstage hexpected⟩)
  | condemn hstage hunexpected => exact .inr (.inr ⟨rfl, rfl, fun _ => .condemn hstage hunexpected⟩)
  | fail hstage => exact .inr (.inr ⟨rfl, rfl, fun _ => .fail hstage⟩)
  | tell hstage => exact .inr (.inr ⟨rfl, rfl, fun _ => .tell hstage⟩)
  | vanish hdoomed hstage => exact .inr (.inr ⟨rfl, rfl, fun _ => .vanish hdoomed hstage⟩)

/-- What the reader does with the junk in its stream it does without the junk, unless it reads the
junk. -/
theorem ReaderStep.without_junk (hjunk : Frame.read true junk = .message v [])
    (H : Inserted junk messages st st₂) (h : ReaderStep server c st action c' st' parcels) :
    (∃ messages' st₂', ReaderStep server c st₂ action c' st₂' parcels ∧
        Inserted junk messages' st' st₂' ∧ messages = action.read?.toList ++ messages') ∨
      (messages = [] ∧ st.stage = .reading ∧ action = .read v ∧ parcels = [] ∧
        ∃ answer, c.handle server v = (c', answer) ∧
          st' = { st₂ with stage := answer.elim .reading .answering }) := by
  rcases h.octets_cases with ⟨message, rest, answer, rfl, hstage, hreading, hhandle, rfl, rfl⟩ |
    ⟨hstage, hnone⟩ | ⟨hread, hoctets, hany⟩
  · cases messages with
    | nil =>
      -- no message is left in front of the junk, so that it is the junk that is read
      cases hreading.symm.trans (H.read_junk hjunk)
      refine .inr ⟨rfl, hstage, rfl, rfl, answer, hhandle, ?_⟩
      rw [H.eq_with.1]
    | cons first messages =>
      obtain ⟨rest', rest₂, hfront, hfront₂, hinserted⟩ := H.read_front
      cases hreading.symm.trans hfront
      have hstage₂ : st₂.stage = .reading := by
        rw [H.eq_with.1]
        exact hstage
      exact .inl ⟨messages, _, .read hstage₂ hfront₂ hhandle, hinserted _, rfl⟩
  · -- the reader finds no message, but there is one in any case
    cases messages with
    | nil => exact absurd (H.read_junk hjunk) (hnone _ _)
    | cons first messages =>
      obtain ⟨rest', _, hfront, -⟩ := H.read_front
      exact absurd hfront (hnone _ _)
  · refine .inl ⟨messages, { st' with octets := st₂.octets }, ?_, ?_, ?_⟩
    · have hstep := hany st₂.octets
      rwa [← H.eq_with.1] at hstep
    · have hinserted := H.goOn st'
      rwa [← hoctets] at hinserted
    · rw [hread]
      rfl

/-- What the reader does without the junk it does with the junk in its stream, unless the junk is
what it is to read. -/
theorem ReaderStep.with_junk (H : Inserted junk messages st st₂)
    (h : ReaderStep server c st₂ action c' st₂' parcels) :
    (∃ messages' st', ReaderStep server c st action c' st' parcels ∧
        Inserted junk messages' st' st₂' ∧ messages = action.read?.toList ++ messages') ∨
      (messages = [] ∧ st.stage = .reading) := by
  have hstages : st.stage = st₂.stage := by rw [H.eq_with.1]
  rcases h.octets_cases with ⟨message, rest, answer, rfl, hstage, hreading, hhandle, rfl, rfl⟩ |
    ⟨hstage, hnone⟩ | ⟨hread, hoctets, hany⟩
  · cases messages with
    | nil => exact .inr ⟨rfl, hstages.trans hstage⟩
    | cons first messages =>
      obtain ⟨rest', rest₂, hfront, hfront₂, hinserted⟩ := H.read_front
      cases hreading.symm.trans hfront₂
      exact .inl ⟨messages, _, .read (hstages.trans hstage) hfront hhandle, hinserted _, rfl⟩
  · cases messages with
    | nil => exact .inr ⟨rfl, hstages.trans hstage⟩
    | cons first messages =>
      obtain ⟨_, rest₂, -, hfront₂, -⟩ := H.read_front
      exact absurd hfront₂ (hnone _ _)
  · refine .inl ⟨messages, { st₂' with octets := st.octets }, ?_, ?_, ?_⟩
    · have hstep := hany st.octets
      rwa [← H.eq_with.2] at hstep
    · have hinserted := H.goOn st₂'
      rwa [← hoctets] at hinserted
    · rw [hread]
      rfl

/-! ## Steps with and without junk -/

/-- The reader read the junk, and the two states differ in the log only. -/
theorem twins_of_junk {answer : Option Client.Answer} (log : List String)
    (hst : s.streams[server]? = some st) (H : Inserted junk [] st st₂)
    (hreading : st.stage = .reading) (hv : Client.Junk s.client server v)
    (hhandle : s.client.handle server v = (c, answer)) :
    Twins (· = ·) server
      { s with
        client := c
        streams := s.streams.set server { st₂ with stage := answer.elim .reading .answering }
        parcels := s.parcels ++ [] }
      (s.disguise log (s.streams.set server st₂)) := by
  have hlt := (List.getElem?_eq_some_iff.mp hst).1
  obtain ⟨log', hlog⟩ := hv.handle
  cases hhandle.symm.trans hlog
  have hstage : st₂.stage = .reading := by
    rw [H.eq_with.1]
    exact hreading
  have hst₂ : { st₂ with stage := .reading } = st₂ := by rw [← hstage]
  have h : Twins (· = ·) server
      { s with
        client := s.client.withLog log', streams := s.streams.set server st₂, parcels := s.parcels }
      { s.disguise log (s.streams.set server st₂) with
        client := s.client.withLog log
        streams := (s.streams.set server st₂).set server st₂
        parcels := s.parcels } := twins_set_self hlt rfl ⟨log, rfl⟩ s.parcels
  rw [List.set_set] at h
  rw [Option.elim_none, hst₂, List.append_nil]
  exact h

/-- A step of a client whose server sent junk is one of the client without the junk, unless the
junk is read in it. -/
theorem Step.without_junk (hjunk : Frame.read true junk = .message v [])
    (H : Twins (Inserted junk messages) server s t) (h : Step s a s') :
    (∃ messages' t', Step t a t' ∧ Twins (Inserted junk messages') server s' t' ∧
        messages = (a.read? server).toList ++ messages') ∨
      (messages = [] ∧ (∃ i, a = .reader server i (.read v)) ∧
        (Client.Junk s.client server v → Twins (· = ·) server s' t)) := by
  by_cases hown : ∃ i action, a = .reader server i action
  · obtain ⟨_, action, rfl⟩ := hown
    cases H with
    | @intro st st₂ log hst hrelated =>
      have hlt := (List.getElem?_eq_some_iff.mp hst).1
      cases h with
      | @reader _ st₁ st' _ c parcels hstream hstep =>
        cases hstream.symm.trans hst
        rcases hstep.without_junk hjunk hrelated with
          ⟨messages', st₂', hstep₂, hrelated', hmessages⟩ |
          ⟨hnil, hreading, rfl, rfl, answer, hhandle, rfl⟩
        · obtain ⟨d, hstep₂, hd⟩ := hstep₂.alike (d := s.client.withLog log) ⟨log, rfl⟩
          rw [← read?_reader server (s.client.tableOf server)] at hmessages
          exact .inl ⟨messages', _, .reader (List.getElem?_set_self hlt) hstep₂,
            twins_set_self hlt hrelated' hd _, hmessages⟩
        · subst hnil
          refine .inr ⟨rfl, ⟨_, rfl⟩, fun hv => ?_⟩
          exact twins_of_junk log hst hrelated hreading hv hhandle
  · have hother : ∀ i action, a ≠ .reader server i action := fun i action ha => hown ⟨i, action, ha⟩
    obtain ⟨t', hstep, H'⟩ := h.twin steady_inserted H hother
    refine .inl ⟨messages, t', hstep, H', ?_⟩
    rw [read?_eq_none hother]
    rfl

/-- A step of a client without the junk is one of the client whose server sent it, unless the junk
is what the reader is to read. -/
theorem Step.with_junk (H : Twins (Inserted junk messages) server s t) (h : Step t a t') :
    (∃ messages' s', Step s a s' ∧ Twins (Inserted junk messages') server s' t' ∧
        messages = (a.read? server).toList ++ messages') ∨
      (messages = [] ∧ ∃ st, s.streams[server]? = some st ∧ st.stage = .reading) := by
  by_cases hown : ∃ i action, a = .reader server i action
  · obtain ⟨_, action, rfl⟩ := hown
    cases H with
    | @intro st st₂ log hst hrelated =>
      have hlt := (List.getElem?_eq_some_iff.mp hst).1
      cases h with
      | @reader _ st₁ st₂' _ c parcels hstream hstep =>
        cases hstream.symm.trans (List.getElem?_set_self hlt)
        rcases hstep.with_junk hrelated with ⟨messages', st', hstep₁, hrelated', hmessages⟩ |
          ⟨hnil, hreading⟩
        · obtain ⟨d, hstep₁, hd⟩ := hstep₁.alike (d := s.client) ⟨s.client.log, rfl⟩
          rw [← read?_reader server (s.client.tableOf server)] at hmessages
          exact .inl ⟨messages', _, .reader hst hstep₁,
            twins_set_self hlt hrelated' hd.symm _, hmessages⟩
        · exact .inr ⟨hnil, st, hst, hreading⟩
  · have hother : ∀ i action, a ≠ .reader server i action := fun i action ha => hown ⟨i, action, ha⟩
    obtain ⟨s', hstep, H'⟩ := h.twin steady_inserted.symm H.symm hother
    refine .inl ⟨messages, s', hstep, H'.symm, ?_⟩
    rw [read?_eq_none hother]
    rfl

theorem Twins.read_junk (hjunk : Frame.read true junk = .message v [])
    (H : Twins (Inserted junk []) server s t) (hst : s.streams[server]? = some st)
    (hreading : st.stage = .reading) (hv : Client.Junk s.client server v) :
    ∃ s₁, Step s (.reader server (s.client.tableOf server) (.read v)) s₁ ∧
      Twins (· = ·) server s₁ t := by
  cases H with
  | @intro st' st₂ log hst' hrelated =>
    cases hst'.symm.trans hst
    obtain ⟨c, answer, hhandle⟩ : ∃ c answer, s.client.handle server v = (c, answer) := ⟨_, _, rfl⟩
    have hstep := Step.reader hst (.read hreading (hrelated.read_junk hjunk) hhandle)
    have htwins := twins_of_junk log hst hrelated hreading hv hhandle
    have hst₂ (stage : ReaderStage) :
        { st₂ with stage := stage } = { st with octets := st₂.octets, stage := stage } := by
      rw [hrelated.eq_with.1]
    rw [hst₂] at htwins
    exact ⟨_, hstep, htwins⟩

/-! ## Runs with and without junk -/

theorem Run.without_junk (hjunk : Frame.read true junk = .message v [])
    (H : Twins (Inserted junk messages) server s t) (h : Run s actions s') :
    (∃ messages' t', Run t actions t' ∧ Twins (Inserted junk messages') server s' t' ∧
        messages = actions.filterMap (·.read? server) ++ messages') ∨
      ∃ before after i s₁, actions = before ++ .reader server i (.read v) :: after ∧
        Run s before s₁ ∧ before.filterMap (·.read? server) = messages ∧
        (Client.Junk s₁.client server v → ∃ t', Run t (before ++ after) t' ∧ SameButLog s' t') := by
  -- the streams stay related up to the step that reads the junk, and are the same from there on
  induction h generalizing t messages with
  | done s => exact .inl ⟨messages, t, .done t, H, rfl⟩
  | @step s s₁ s' a actions hfirst hrest ih =>
    rcases hfirst.without_junk hjunk H with
      ⟨messages₁, t₁, hfirst', H₁, rfl⟩ | ⟨rfl, ⟨i, rfl⟩, hread⟩
    · rcases ih H₁ with ⟨messages', t', hrest', H', rfl⟩ |
        ⟨before, after, i, s₂, rfl, hbefore, hreads, hv⟩
      · refine .inl ⟨messages', t', .step hfirst' hrest', H', ?_⟩
        rw [filterMap_cons_eq, List.append_assoc]
      · refine .inr ⟨a :: before, after, i, s₂, rfl, .step hfirst hbefore, ?_, fun hjunk => ?_⟩
        · rw [filterMap_cons_eq, hreads]
        · obtain ⟨t', hrun, hsame⟩ := hv hjunk
          exact ⟨t', .step hfirst' hrun, hsame⟩
    · refine .inr ⟨[], actions, i, s, rfl, .done s, rfl, fun hjunk => ?_⟩
      obtain ⟨t', hrest', H'⟩ := hrest.alike (hread hjunk)
      exact ⟨t', hrest', H'.sameButLog⟩

theorem Run.with_junk (hjunk : Frame.read true junk = .message v [])
    (H : Twins (Inserted junk messages) server s t) (h : Run t actions t') :
    (∃ messages' s', Run s actions s' ∧ Twins (Inserted junk messages') server s' t' ∧
        messages = actions.filterMap (·.read? server) ++ messages') ∨
      ∃ before after s₁, actions = before ++ after ∧ Run s before s₁ ∧
        before.filterMap (·.read? server) = messages ∧
        (Client.Junk s₁.client server v → ∃ s',
          Run s (before ++ .reader server (s₁.client.tableOf server) (.read v) :: after) s' ∧
          SameButLog s' t') := by
  induction h generalizing s messages with
  | done t => exact .inl ⟨messages, s, .done s, H, rfl⟩
  | @step t t₁ t' a actions hfirst hrest ih =>
    rcases Step.with_junk H hfirst with ⟨messages₁, s₁, hfirst', H₁, rfl⟩ | ⟨rfl, st, hst, hreading⟩
    · rcases ih H₁ with ⟨messages', s', hrest', H', rfl⟩ |
        ⟨before, after, s₂, rfl, hbefore, hreads, hv⟩
      · refine .inl ⟨messages', s', .step hfirst' hrest', H', ?_⟩
        rw [filterMap_cons_eq, List.append_assoc]
      · refine .inr ⟨a :: before, after, s₂, rfl, .step hfirst' hbefore, ?_, fun hjunk => ?_⟩
        · rw [filterMap_cons_eq, hreads]
        · obtain ⟨s', hrun, hsame⟩ := hv hjunk
          exact ⟨s', .step hfirst' hrun, hsame⟩
    · -- the reader gets the junk out of the way before it takes the step of the other run
      refine .inr ⟨[], a :: actions, s, rfl, .done s, rfl, fun hv => ?_⟩
      obtain ⟨s₁, hread, H₁⟩ := H.read_junk hjunk hst hreading hv
      obtain ⟨s', hrun, H'⟩ := (Run.step hfirst hrest).alike H₁.swap
      exact ⟨s', .step hread hrun, H'.swap.sameButLog⟩

/-- Junk in what a server sent, behind messages that its reader has not read; the octets of the junk
are read as one value. The two states are the same but for the log and these octets. Whatever the
client, the readers and the owner do, and whatever else the servers send: a run with the junk is a
run without it, to the same end but for the log, once the action that reads the junk is left out;
and a run without the junk is a run with it, to the same end but for the log, once this action is
put in where the reader comes to it. As long as the reader has not come to the junk nothing is
different but the octets that are still to be read. -/
theorem junk_invisible (hjunk : Frame.read true junk = .message v [])
    (H : Twins (Inserted junk messages) server s t) :
    (∀ actions s', Run s actions s' →
      (∃ messages' t', Run t actions t' ∧ Twins (Inserted junk messages') server s' t' ∧
        messages = actions.filterMap (·.read? server) ++ messages') ∨
      ∃ before after i s₁, actions = before ++ .reader server i (.read v) :: after ∧
        Run s before s₁ ∧ before.filterMap (·.read? server) = messages ∧
        (Client.Junk s₁.client server v →
          ∃ t', Run t (before ++ after) t' ∧ SameButLog s' t')) ∧
    ∀ actions t', Run t actions t' →
      (∃ messages' s', Run s actions s' ∧ Twins (Inserted junk messages') server s' t' ∧
        messages = actions.filterMap (·.read? server) ++ messages') ∨
      ∃ before after s₁, actions = before ++ after ∧
        Run s before s₁ ∧ before.filterMap (·.read? server) = messages ∧
        (Client.Junk s₁.client server v → ∃ s',
          Run s (before ++ .reader server (s₁.client.tableOf server) (.read v) :: after) s' ∧
          SameButLog s' t') :=
  ⟨fun _ _ h => h.without_junk hjunk H, fun _ _ h => h.with_junk hjunk H⟩

/-- A response with an id that no request has. -/
def stray : Json := .mkObject [("id", .string "x"), ("result", .null)]

/-- The stray response behind the first one of the questions. -/
theorem junk_invisible_stray :
    Frame.read true (Frame.encode stray) = .message stray [] ∧
      Twins (Inserted (Frame.encode stray) (questions.take 1)) 0
        (listening (Protocol.Frame.stream (questions.take 1) ++
          (Frame.encode stray ++ Protocol.Frame.stream (questions.drop 1))))
        (listening (Protocol.Frame.stream questions)) ∧
      ∃ before after i s' t', before.filterMap (·.read? 0) = questions.take 1 ∧
        after.filterMap (·.read? 0) = questions.drop 1 ∧
        Run (listening (Protocol.Frame.stream questions)) (before ++ after) t' ∧
        Run (listening (Protocol.Frame.stream (questions.take 1) ++
          (Frame.encode stray ++ Protocol.Frame.stream (questions.drop 1))))
          (before ++ .reader 0 i (.read stray) :: after) s' ∧ SameButLog s' t' := by
  have hproper : stray.Proper ∧ stray.Integral := by
    constructor
    · apply Json.proper_mkObject
      simp only [List.forall_mem_cons]
      exact ⟨trivial, trivial, nofun⟩
    · apply Json.integral_mkObject
      simp only [List.forall_mem_cons]
      exact ⟨trivial, trivial, nofun⟩
  have hread : Frame.read true (Frame.encode stray) = .message stray [] := by
    have hread := Protocol.Frame.read_encode true hproper.1 hproper.2 (by decide) (by decide) []
    rwa [List.append_nil] at hread
  have hjunk (c : Client) : Client.Junk c 0 stray := .strange rfl nofun rfl
  have H : Twins (Inserted (Frame.encode stray) (questions.take 1)) 0
      (listening (Protocol.Frame.stream (questions.take 1) ++
        (Frame.encode stray ++ Protocol.Frame.stream (questions.drop 1))))
      (listening (Protocol.Frame.stream questions)) := by
    have hfirst : ∀ v ∈ questions.take 1, Protocol.Frame.Framable v := by
      intro v hv
      exact framable_questions v (List.mem_of_mem_take hv)
    have hholds := Frame.Holds.of_stream hfirst []
    rw [List.append_nil] at hholds
    have hstream : Protocol.Frame.stream questions =
        Protocol.Frame.stream (questions.take 1) ++ Protocol.Frame.stream (questions.drop 1) := by
      rw [← Protocol.Frame.stream_append, List.take_append_drop]
    rw [hstream]
    exact .intro [] rfl (.intro hholds rfl)
  obtain ⟨actions, t', hgoes⟩ : ∃ actions t', GoesOn 0 (listening (Protocol.Frame.stream questions))
      questions [none, none] actions t' .fresh := by
    have hholds := Frame.Holds.of_stream framable_questions []
    rw [List.append_nil] at hholds
    have hst : (listening (Protocol.Frame.stream questions)).streams[0]? =
        some { Stream.fresh with octets := Protocol.Frame.stream questions } := rfl
    exact exists_goesOn hholds hst rfl rfl rfl
  refine ⟨hread, H, ?_⟩
  rcases (junk_invisible hread H).2 actions t' hgoes.run with ⟨messages', -, -, -, hreads⟩ |
    ⟨before, after, s₁, rfl, -, hreads, hwith⟩
  · rw [hgoes.reads] at hreads
    have hlength := congrArg List.length hreads
    simp only [questions, List.take_succ_cons, List.take_zero, List.length_append,
      List.length_cons, List.length_nil] at hlength
    omega
  · obtain ⟨s', hrun, hsame⟩ := hwith (hjunk _)
    refine ⟨before, after, _, s', t', hreads, ?_, hgoes.run, hrun, hsame⟩
    have hall := hgoes.reads
    rw [List.filterMap_append, hreads] at hall
    exact List.append_cancel_left (hall.trans (List.take_append_drop 1 questions).symm)

end Traffic

/-! ## Values that cannot be read -/

namespace Json

/-- A null inside of `n` arrays. -/
def nested : Nat → Json
  | 0 => .null
  | n + 1 => .array [nested n]

theorem depth_nested (n : Nat) : (nested n).depth = n := by
  induction n with
  | zero => rfl
  | succ n ih => rw [nested, depth, depthItems, depthItems, ih, Nat.max_zero]

theorem proper_nested (n : Nat) : (nested n).Proper := by
  induction n with
  | zero => trivial
  | succ n ih => exact ⟨ih, trivial⟩

theorem integral_nested (n : Nat) : (nested n).Integral := by
  induction n with
  | zero => trivial
  | succ n ih => exact ⟨ih, trivial⟩

theorem length_nested (n : Nat) : (Text.Utf8.encode (nested n).compact).length = 2 * n + 4 := by
  simp only [Text.Utf8.encode, compact, String.toList_ofList]
  induction n with
  | zero => decide
  | succ n ih =>
    have hbrackets : (String.utf8EncodeChar '[').length = 1 ∧
        (String.utf8EncodeChar ']').length = 1 := by decide
    simp only [nested, compactChars, compactItems, List.cons_append, List.flatMap_cons,
      List.flatMap_append, List.flatMap_nil, List.length_append, List.length_nil, ih, hbrackets]
    omega

end Json

namespace Protocol.Frame

/-- A value that is nested too deep cannot be read from its frame. -/
theorem read_encode_deep (closed : Bool) (hp : v.Proper) (hi : v.Integral)
    (hd : Json.Draft.maxDepth < v.depth) (hlength : (Text.Utf8.encode v.compact).length < maxLength)
    (rest : List UInt8) : ∃ fault, read closed (encode v ++ rest) = .failed (.json fault) := by
  have hvalue : ∃ fault, Json.ofOctets (Text.Utf8.encode v.compact) = .error fault := by
    rw [ofOctets_compact, ← Json.spreadChars_compact 0]
    exact Json.ofChars_spread_deep _ 0 hp hi hd
  obtain ⟨fault, hfault⟩ := hvalue
  refine ⟨fault, ?_⟩
  rw [read_frame closed hlength, hfault]

end Protocol.Frame

namespace Exchange

/-- A client with a running server that sent some octets. -/
def facing (octets : List UInt8) : Exchange where
  client :=
    { Client.new (.analyzer "wa") with
      state := .running, readers := [0], transport := some 0, process := some 0 }
  links := [⟨{ Peer.started ⟨"wa", [], [], none⟩ [] with outbox := octets }, true⟩]
  scripts := []
  machine := ⟨.empty, [], 1⟩

/-- What the reader does first. -/
theorem readFully_facing (octets : List UInt8) :
    (facing octets).readFully 0 = match Frame.read false octets with
      | .message message rest => read 0 octets.length ((facing octets).handle 0 message rest)
      | .finished => (facing octets).endReader 0 endOfStream
      | .failed e => (facing octets).endReader 0 e.message
      | .waiting => facing octets
      | .breakdown _ => (facing octets).stopReading 0 := by
  have hlink : (facing octets).links[0]? =
      some ⟨{ Peer.started ⟨"wa", [], [], none⟩ [] with outbox := octets }, true⟩ := rfl
  rw [readFully, hlink]
  simp only [Exchange.read, hlink]
  rfl

/-- Octets that cannot be read end the reader, and the server counts as failed. -/
theorem readFully_facing_of_failed {octets : List UInt8} {e : Error}
    (h : Frame.read false octets = .failed e) :
    ((facing octets).readFully 0).client.state = .failed ∧
      ((facing octets).readFully 0).client.events = [.crashed "webby-analyzer" e.message] := by
  have hends : (facing octets).readFully 0 = (facing octets).endReader 0 e.message := by
    rw [readFully_facing, h]
  rw [hends]
  exact ⟨rfl, rfl⟩

/-- A null inside of 128 arrays is no object, and still it does not pass: without it the client
stays as it is, and with it the server counts as failed. -/
theorem deep_visible :
    (∀ c server, Client.Junk c server (.nested 128)) ∧
      ((facing []).readFully 0).client = (facing []).client ∧
      ((facing (Frame.encode (.nested 128))).readFully 0).client.state = .failed ∧
      ∃ reason, ((facing (Frame.encode (.nested 128))).readFully 0).client.events =
        [.crashed "webby-analyzer" reason] := by
  have hjunk (c : Client) (server : Nat) : Client.Junk c server (.nested 128) := .noObject rfl
  have hdeep : Json.Draft.maxDepth < (Json.nested 128).depth := by
    rw [Json.depth_nested]
    decide
  have hlength :
      (Text.Utf8.encode (Json.nested 128).compact).length < Protocol.Frame.maxLength := by
    rw [Json.length_nested]
    decide
  obtain ⟨fault, hread⟩ := Protocol.Frame.read_encode_deep false (Json.proper_nested 128)
    (Json.integral_nested 128) hdeep hlength []
  rw [List.append_nil] at hread
  have hwithout : ((facing []).readFully 0).client = (facing []).client := by
    rw [readFully_facing, Protocol.Frame.breaksOff_nil.waits]
  obtain ⟨hstate, hevents⟩ := readFully_facing_of_failed hread
  exact ⟨hjunk, hwithout, hstate, _, hevents⟩

end Exchange

end AnalyzerClient
