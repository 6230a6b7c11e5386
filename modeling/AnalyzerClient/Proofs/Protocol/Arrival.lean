import AnalyzerClient.Proofs.Protocol.Truncation

/-!
# Octets that arrive later

A reader that has a whole message in front of it reads this message, however much has arrived behind
it and whether or not the stream is closed (`Frame.read_append`). The messages of a stream therefore
do not depend on when its octets arrive: `Frame.Holds` says which messages stand in front of the
octets that are left.
-/

namespace AnalyzerClient

namespace Text.Line

variable {octets line rest : List UInt8}

/-- A line with something behind it ends with its newline, and more octets change nothing in it. -/
theorem next?_append_of_ne_nil (h : next? octets = some (line, rest)) (hrest : rest ≠ [])
    (more : List UInt8) :
    line.getLast? = some 10 ∧ next? (octets ++ more) = some (line, rest ++ more) := by
  by_cases hmem : 10 ∈ octets
  · obtain ⟨front, back, rfl, hfront⟩ := List.eq_append_cons_of_mem hmem
    rw [next?_append hfront] at h
    cases h
    rw [List.append_assoc, List.cons_append, next?_append hfront]
    exact ⟨List.getLast?_concat, rfl⟩
  · have hne : octets ≠ [] := by rintro rfl; cases h
    rw [next?_of_not_mem hmem hne] at h
    cases h
    exact absurd rfl hrest

end Text.Line

namespace Protocol.Frame

open Text

variable {closed : Bool} {octets rest behind text : List UInt8} {n : Nat} {v : Json}
  {vs ws : List Json}

theorem readHeaders_nil_ne (length m : Option Nat) :
    readHeaders closed length [] ≠ .length m rest := by
  cases closed with
  | false => rw [readHeaders_open List.not_mem_nil]; nofun
  | true => rw [readHeaders_nil]; nofun

/-- Headers begin with a line of text. -/
theorem line_of_readHeaders {length m : Option Nat}
    (h : readHeaders closed length octets = .length m rest) :
    ∃ line behind text, Line.next? octets = some (line, behind) ∧
      (closed = true ∨ isWhole line = true) ∧ Utf8.decode line = .ok text := by
  rw [readHeaders] at h
  split at h
  · split at h <;> cases h
  · next line behind hnext =>
    split at h
    · cases h
    · next hgo =>
      cases htext : Utf8.decode line with
      | error e =>
        rw [htext] at h
        cases h
      | ok text =>
        refine ⟨line, behind, text, hnext, ?_, htext⟩
        cases closed with
        | false => exact .inr (by simpa using hgo)
        | true => exact .inl rfl

/-- Headers with something behind them are whole. -/
theorem readHeaders_append {octets : List UInt8} {length m : Option Nat}
    (h : readHeaders closed length octets = .length m rest) (hrest : rest ≠ []) (closed' : Bool)
    (more : List UInt8) :
    readHeaders closed' length (octets ++ more) = .length m (rest ++ more) := by
  obtain ⟨line, behind, text, hnext, hwhole, htext⟩ := line_of_readHeaders h
  have hshorter : behind.length < octets.length := Line.length_next? hnext
  rw [readHeaders_eq hnext hwhole htext] at h
  -- a line that ends the stream leaves nothing, so that this one does not end it
  have hbehind : behind ≠ [] := by
    rintro rfl
    cases hline : Header.ofLine text with
    | blank =>
      rw [hline] at h
      cases h
      exact hrest rfl
    | length n => exact readHeaders_nil_ne _ _ (by simpa only [hline] using h)
    | badLength text => rw [hline] at h; cases h
    | other => exact readHeaders_nil_ne _ _ (by simpa only [hline] using h)
  obtain ⟨hlast, hmore⟩ := Line.next?_append_of_ne_nil hnext hbehind more
  rw [readHeaders_eq hmore (.inr (beq_iff_eq.mpr hlast)) htext]
  cases hline : Header.ofLine text with
  | blank =>
    rw [hline] at h
    cases h
    rfl
  | length n =>
    have hlater : readHeaders closed (some n) behind = .length m rest := by
      simpa only [hline] using h
    exact readHeaders_append hlater hrest closed' more
  | badLength text => rw [hline] at h; cases h
  | other =>
    have hlater : readHeaders closed length behind = .length m rest := by
      simpa only [hline] using h
    exact readHeaders_append hlater hrest closed' more
  termination_by octets.length

/-- When a message is read. -/
theorem read_eq_message : read closed octets = .message v rest ↔
    ∃ n text, readHeaders closed none octets = .length (some n) text ∧ n < maxLength ∧
      n ≤ text.length ∧ Json.ofOctets (text.take n) = .ok v ∧ text.drop n = rest := by
  constructor
  · intro h
    rw [read] at h
    split at h
    · cases h
    · cases h
    · cases h
    · cases h
    · next n text hheaders =>
      refine ⟨n, text, hheaders, ?_⟩
      split at h
      · cases h
      · next hlength =>
        simp only at h
        split at h
        · split at h <;> cases h
        · next hlong =>
          rw [List.length_take] at hlong
          split at h
          · next value hvalue =>
            cases h
            exact ⟨by omega, by omega, hvalue, rfl⟩
          · cases h
  · rintro ⟨n, text, hheaders, hlength, hlong, hvalue, rfl⟩
    have htake : ¬ (text.take n).length < n := by
      rw [List.length_take]
      omega
    rw [read, hheaders]
    simp only [if_neg (Nat.not_le.mpr hlength), if_neg htake, hvalue]

theorem length_readHeaders {octets : List UInt8} {length m : Option Nat}
    (h : readHeaders closed length octets = .length m rest) : rest.length < octets.length := by
  obtain ⟨line, behind, text, hnext, hwhole, htext⟩ := line_of_readHeaders h
  have hshorter : behind.length < octets.length := Line.length_next? hnext
  rw [readHeaders_eq hnext hwhole htext] at h
  cases hline : Header.ofLine text with
  | blank =>
    rw [hline] at h
    cases h
    exact hshorter
  | length n => exact (length_readHeaders (by simpa only [hline] using h)).trans hshorter
  | badLength text => rw [hline] at h; cases h
  | other => exact (length_readHeaders (by simpa only [hline] using h)).trans hshorter
  termination_by octets.length

theorem length_read (h : read closed octets = .message v rest) :
    rest.length < octets.length := by
  obtain ⟨n, text, hheaders, -, -, -, rfl⟩ := read_eq_message.mp h
  have hshorter := length_readHeaders hheaders
  rw [List.length_drop]
  omega

/-- A message that is read is read whatever arrives behind it. -/
theorem read_append (h : read closed octets = .message v rest) (closed' : Bool)
    (more : List UInt8) : read closed' (octets ++ more) = .message v (rest ++ more) := by
  obtain ⟨n, text, hheaders, hlength, hlong, hvalue, rfl⟩ := read_eq_message.mp h
  have htext : text ≠ [] := by
    rintro rfl
    rw [List.take_nil, ofOctets_nil] at hvalue
    cases hvalue
  refine read_eq_message.mpr ⟨n, text ++ more, readHeaders_append hheaders htext closed' more,
    hlength, ?_, ?_, ?_⟩
  · rw [List.length_append]
    omega
  · rw [List.take_append_of_le_length hlong, hvalue]
  · rw [List.drop_append_of_le_length hlong]

/-- A message that is read is read whether or not the stream is closed. -/
theorem read_of_message (h : read closed octets = .message v rest) (closed' : Bool) :
    read closed' octets = .message v rest := by
  have hmore := read_append h closed' []
  rwa [List.append_nil, List.append_nil] at hmore

/-- The messages stand in the octets, one behind the other, in front of what is left. -/
inductive Holds : List UInt8 → List Json → List UInt8 → Prop
  | nil (octets : List UInt8) : Holds octets [] octets
  | cons {closed : Bool} {octets rest behind : List UInt8} {v : Json} {vs : List Json}
      (first : read closed octets = .message v rest) (later : Holds rest vs behind) :
      Holds octets (v :: vs) behind

namespace Holds

theorem append (h : Holds octets vs rest) (more : List UInt8) :
    Holds (octets ++ more) vs (rest ++ more) := by
  induction h with
  | nil octets => exact .nil _
  | cons first _ ih => exact .cons (read_append first false more) ih

theorem trans (h : Holds octets vs rest) (h' : Holds rest ws behind) :
    Holds octets (vs ++ ws) behind := by
  induction h with
  | nil octets => exact h'
  | cons first _ ih => exact .cons first (ih h')

theorem single (h : read closed octets = .message v rest) : Holds octets [v] rest :=
  .cons h (.nil rest)

/-- Behind framed messages anything may stand. -/
theorem of_stream {messages : List Json} (h : ∀ v ∈ messages, Framable v) (rest : List UInt8) :
    Holds (stream messages ++ rest) messages rest := by
  induction messages with
  | nil => exact .nil rest
  | cons v messages ih =>
    obtain ⟨hv, hmessages⟩ := List.forall_mem_cons.mp h
    have hread := hv.read_encode false (stream messages ++ rest)
    rw [stream_cons, List.append_assoc]
    exact .cons hread (ih hmessages)

end Holds

end Protocol.Frame

end AnalyzerClient
