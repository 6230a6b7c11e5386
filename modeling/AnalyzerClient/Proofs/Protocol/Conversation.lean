import AnalyzerClient.Proofs.Protocol.Frame
import AnalyzerClient.Protocol.Message

/-!
# Conversations

What the client writes is read as what it is: the frames of a conversation, one behind the other,
are read as the same requests, notifications and responses in the same order, every frame up to its
last octet and no further, and then the stream ends (`Sent.receive_transmit`).
-/

namespace AnalyzerClient.Protocol

open Json (ProperItems)
open Text (Utf8.encode)

/-- A message that the client writes. -/
inductive Sent where
  | request (id : Int) (method : String) (params : Json)
  | notification (method : String) (params : Json)
  | response (id : Int) (result : Json)

/-- Reads the messages of a closed stream, and how the stream ends. -/
def receive (octets : List UInt8) : List (Except Violation Message) × Frame.Ending :=
  ((Frame.readAll octets).1.map Message.ofJson, (Frame.readAll octets).2)

namespace Sent

/-- The value that is written. -/
def json : Sent → Json
  | .request id method params => Message.requestJson id method params
  | .notification method params => Message.notificationJson method params
  | .response id result => Message.responseJson (.ofInt id) result

/-- The message that should be read. A result is there even when it is null. -/
def message : Sent → Message
  | .request id method params => .request (.ofInt id) method params
  | .notification method params => .notification method params
  | .response id result => .response id (some result) none

/-- The id, if there is one. -/
def id? : Sent → Option Int
  | .request id _ _ => some id
  | .notification _ _ => none
  | .response id _ => some id

/-- The parameters or the result. -/
def payload : Sent → Json
  | .request _ _ params => params
  | .notification _ params => params
  | .response _ result => result

/-- The octets of a conversation. -/
def transmit (sent : List Sent) : List UInt8 := sent.flatMap fun m => Frame.encode m.json

/-- What there is to send: an id of 64 bits with a sign, values whose numbers are integers of 64
bits, a message no deeper than a text may be nested, and a text that fits into memory. -/
structure Sendable (m : Sent) : Prop where
  id : ∀ n, m.id? = some n → -(Word.half64 : Int) ≤ n ∧ n < Word.half64
  proper : m.payload.Proper
  integral : m.payload.Integral
  depth : m.json.depth ≤ Json.Draft.maxDepth
  length : (Utf8.encode m.json.compact).length < Frame.maxLength

variable {m : Sent} {sent : List Sent}

theorem transmit_cons (m : Sent) (sent : List Sent) :
    transmit (m :: sent) = Frame.encode m.json ++ transmit sent := rfl

namespace Sendable

theorem inRange (h : m.Sendable) {n : Int} (hn : m.id? = some n) : (Json.ofInt n).Proper := by
  obtain ⟨hlow, hhigh⟩ := h.id n hn
  exact ⟨hlow, Int.lt_trans hhigh (by decide)⟩

theorem proper_json (h : m.Sendable) : m.json.Proper := by
  have hpayload := h.proper
  cases m with
  | request id method params =>
    have hid := h.inRange rfl
    refine Json.proper_mkObject ?_
    simp only [List.forall_mem_cons]
    exact ⟨trivial, hid, trivial, hpayload, nofun⟩
  | notification method params =>
    refine Json.proper_mkObject ?_
    simp only [List.forall_mem_cons]
    exact ⟨trivial, trivial, hpayload, nofun⟩
  | response id result =>
    have hid := h.inRange rfl
    refine Json.proper_mkObject ?_
    simp only [List.forall_mem_cons]
    exact ⟨trivial, hid, hpayload, nofun⟩

theorem integral_json (h : m.Sendable) : m.json.Integral := by
  have hpayload := h.integral
  cases m with
  | request id method params =>
    refine Json.integral_mkObject ?_
    simp only [List.forall_mem_cons]
    exact ⟨trivial, rfl, trivial, hpayload, nofun⟩
  | notification method params =>
    refine Json.integral_mkObject ?_
    simp only [List.forall_mem_cons]
    exact ⟨trivial, trivial, hpayload, nofun⟩
  | response id result =>
    refine Json.integral_mkObject ?_
    simp only [List.forall_mem_cons]
    exact ⟨trivial, rfl, hpayload, nofun⟩

/-- One frame is read up to its end, whether or not more octets will come. -/
theorem read_transmit (h : m.Sendable) (closed : Bool) (sent : List Sent) :
    Frame.read closed (transmit (m :: sent)) = .message m.json (transmit sent) :=
  Frame.read_encode closed h.proper_json h.integral_json h.depth h.length (transmit sent)

theorem ofJson_json (h : m.Sendable) : Message.ofJson m.json = .ok m.message := by
  cases m with
  | request id method params => rfl
  | notification method params => rfl
  | response id result =>
    have hid : (Json.ofInt id).int64? = some id := if_pos (h.id id rfl)
    have hmember : (json (.response id result)).member? "id" = some (.ofInt id) := rfl
    have hmethod : (json (.response id result)).member? "method" = none := rfl
    simp only [Message.ofJson, hmember, hmethod, Option.bind_none, hid]
    rfl

end Sendable

theorem read_transmit_nil : Frame.read true (transmit []) = .finished := by
  have hheaders : Frame.readHeaders true none [] = .finished := by rw [Frame.readHeaders]; rfl
  rw [transmit, List.flatMap_nil, Frame.read, hheaders]

theorem readUpTo_transmit (h : ∀ m ∈ sent, m.Sendable) {fuel : Nat} (hfuel : sent.length < fuel) :
    Frame.readUpTo fuel (transmit sent) = (sent.map json, .finished) := by
  induction sent generalizing fuel with
  | nil =>
    obtain ⟨fuel, rfl⟩ := Nat.exists_eq_succ_of_ne_zero (Nat.ne_zero_of_lt hfuel)
    rw [Frame.readUpTo, read_transmit_nil]
    rfl
  | cons m sent ih =>
    obtain ⟨fuel, rfl⟩ := Nat.exists_eq_succ_of_ne_zero (Nat.ne_zero_of_lt hfuel)
    obtain ⟨hm, hsent⟩ := List.forall_mem_cons.mp h
    have hread := hm.read_transmit true sent
    have hrest := ih hsent (Nat.lt_of_succ_lt_succ hfuel)
    rw [Frame.readUpTo, hread]
    simp only [hrest, List.map_cons]

/-- Every message takes an octet, so that reading does not stop before the last one. -/
theorem length_le_transmit (sent : List Sent) : sent.length ≤ (transmit sent).length := by
  induction sent with
  | nil => exact Nat.zero_le _
  | cons m sent ih =>
    have hframe := Frame.length_encode_pos m.json
    rw [transmit_cons, List.length_append, List.length_cons]
    omega

/-- What is written is read, frame by frame, and then the stream ends. -/
theorem receive_transmit (h : ∀ m ∈ sent, m.Sendable) :
    receive (transmit sent) = (sent.map fun m => .ok m.message, .finished) ∧
      (∀ front m back, sent = front ++ m :: back → ∀ closed,
        Frame.read closed (transmit (m :: back)) = .message m.json (transmit back)) ∧
      Frame.read true (transmit []) = .finished := by
  refine ⟨?_, ?_, read_transmit_nil⟩
  · have hall : Frame.readAll (transmit sent) = (sent.map json, .finished) :=
      readUpTo_transmit h (Nat.lt_succ_of_le (length_le_transmit sent))
    have hmessages : (sent.map json).map Message.ofJson = sent.map fun m => .ok m.message := by
      rw [List.map_map]
      exact List.map_congr_left fun m hm => (h m hm).ofJson_json
    rw [receive, hall, hmessages]
  · intro front m back hsent closed
    have hm : m ∈ sent := hsent ▸ List.mem_append_right front List.mem_cons_self
    exact (h m hm).read_transmit closed back

/-- A request without parameters, a notification whose text has more octets than characters, and a
response without a result. -/
def mixed : List Sent :=
  [.request 1 "shutdown" .null,
    .notification "é" (.array [.string "\"π\n", .ofInt (-3), .object []]), .response 7 .null]

theorem receive_transmit_mixed : (∀ m ∈ mixed, m.Sendable) ∧
    receive (transmit mixed) =
      ([.ok (.request (.ofInt 1) "shutdown" .null),
        .ok (.notification "é" (.array [.string "\"π\n", .ofInt (-3), .object []])),
        .ok (.response 7 (some .null) none)], .finished) := by
  have hsendable : ∀ m ∈ mixed, m.Sendable := by
    intro m hm
    simp only [mixed, List.mem_cons, List.not_mem_nil, or_false] at hm
    rcases hm with rfl | rfl | rfl
    · exact ⟨fun n hn => by cases hn; decide, trivial, trivial, by decide, by decide⟩
    · have hpayload : ProperItems [.string "\"π\n", .ofInt (-3), .object []] :=
        ⟨trivial, ⟨by decide, by decide⟩, ⟨.nil, trivial⟩, trivial⟩
      exact ⟨nofun, hpayload, ⟨trivial, rfl, trivial, trivial⟩, by decide, by decide⟩
    · exact ⟨fun n hn => by cases hn; decide, trivial, trivial, by decide, by decide⟩
  exact ⟨hsendable, (receive_transmit hsendable).1⟩

end Sent

end AnalyzerClient.Protocol
