import AnalyzerClient.Proofs.Protocol.Header

/-!
# Lengths that no memory holds

The reader breaks down at a header whose length is too great for any memory, and at nothing else
(`Frame.read_eq_breakdown`). Whether it comes to such a header is a property of the whole stream,
`Frame.Overflows`: it does not depend on when the octets arrive, since what is read from an open
stream stays when more octets arrive (`Frame.read_of_open`).
-/

namespace AnalyzerClient

namespace Text.Line

/-- A line that ends with its newline is not changed by more octets. -/
theorem next?_append_of_ended {octets line rest : List UInt8} (h : next? octets = some (line, rest))
    (hline : line.getLast? = some 10) (more : List UInt8) :
    next? (octets ++ more) = some (line, rest ++ more) := by
  have hmem : 10 ∈ octets := by
    by_contra hmem
    have hne : octets ≠ [] := by rintro rfl; cases h
    rw [next?_of_not_mem hmem hne] at h
    cases h
    exact hmem (List.mem_of_getLast? hline)
  obtain ⟨front, back, rfl, hfront⟩ := List.eq_append_cons_of_mem hmem
  rw [next?_append hfront] at h
  cases h
  rw [List.append_assoc, List.cons_append, next?_append hfront]

end Text.Line

namespace Protocol.Frame

open Text

variable {closed : Bool} {octets rest behind more : List UInt8} {n : Nat} {v : Json}
  {vs ws : List Json}

/-! ## Open streams -/

/-- The headers with more octets behind them. -/
def Headers.extend (more : List UInt8) : Headers → Headers
  | .length n rest => .length n (rest ++ more)
  | headers => headers

/-- What was read, with more octets behind it. -/
def Reading.extend (more : List UInt8) : Reading → Reading
  | .message v rest => .message v (rest ++ more)
  | reading => reading

/-- An open stream is awaited unless a whole line stands in front. -/
theorem whole_of_open {length : Option Nat} (h : readHeaders false length octets ≠ .waiting) :
    ∃ line rest, Line.next? octets = some (line, rest) ∧ isWhole line = true := by
  rw [readHeaders] at h
  split at h
  · exact absurd rfl h
  · next line rest hnext =>
    refine ⟨line, rest, hnext, ?_⟩
    by_contra hwhole
    rw [Bool.not_eq_true] at hwhole
    simp [hwhole] at h

/-- What the headers of an open stream come to stays, whatever arrives behind them. -/
theorem readHeaders_of_open {length : Option Nat} {octets : List UInt8}
    (h : readHeaders false length octets ≠ .waiting) (closed : Bool) (more : List UInt8) :
    readHeaders closed length (octets ++ more) =
      (readHeaders false length octets).extend more := by
  obtain ⟨line, rest, hnext, hwhole⟩ := whole_of_open h
  have hshorter : rest.length < octets.length := Line.length_next? hnext
  have hmore := Line.next?_append_of_ended hnext (beq_iff_eq.mp hwhole) more
  rw [readHeaders_line hnext (.inr hwhole)] at h ⊢
  rw [readHeaders_line hmore (.inr hwhole)]
  cases htext : Utf8.decode line with
  | error e => rfl
  | ok text =>
    rw [htext] at h
    cases hline : Header.ofLine text with
    | blank => simp only [hline, Headers.extend]
    | length n =>
      simp only [hline] at h ⊢
      exact readHeaders_of_open h closed more
    | badLength text => simp only [hline, Headers.extend]
    | other =>
      simp only [hline] at h ⊢
      exact readHeaders_of_open h closed more
  termination_by octets.length

@[simp] theorem Reading.extend_nil (reading : Reading) : reading.extend [] = reading := by
  cases reading <;> simp [extend]

/-- What is read from an open stream stays, whatever arrives behind it. -/
theorem read_of_open (h : read false octets ≠ .waiting) (closed : Bool) (more : List UInt8) :
    read closed (octets ++ more) = (read false octets).extend more := by
  have hheaders : readHeaders false none octets ≠ .waiting := by
    intro hwaiting
    rw [read, hwaiting] at h
    exact h rfl
  have hmore := readHeaders_of_open hheaders closed more
  rw [read] at h ⊢
  rw [hmore, read]
  cases hlength : readHeaders false none octets with
  | finished => rfl
  | failed e => rfl
  | waiting => exact absurd hlength hheaders
  | length m text =>
    cases m with
    | none => rfl
    | some n =>
      rw [hlength] at h
      simp only [Headers.extend] at h ⊢
      split
      · rfl
      · next hsmall =>
        -- an open stream with too little text is awaited, so that there is enough of it
        have htake : ¬ (text.take n).length < n := by
          intro htake
          simp only [if_neg hsmall, if_pos htake] at h
          exact h rfl
        have hlong : n ≤ text.length := by
          rw [List.length_take] at htake
          omega
        rw [List.take_append_of_le_length hlong, List.drop_append_of_le_length hlong]
        simp only [if_neg htake]
        cases Json.ofOctets (text.take n) <;> rfl

/-! ## Lengths -/

/-- The reader breaks down at a header with a length that is too great, and at nothing else. -/
theorem read_eq_breakdown : read closed octets = .breakdown n ↔
    maxLength ≤ n ∧ ∃ behind, readHeaders closed none octets = .length (some n) behind := by
  constructor
  · intro h
    rw [read] at h
    split at h
    · cases h
    · cases h
    · cases h
    · cases h
    · next m behind hheaders =>
      split at h
      · next hlength =>
        cases h
        exact ⟨hlength, behind, hheaders⟩
      · simp only at h
        split at h
        · split at h <;> cases h
        · split at h <;> cases h
  · rintro ⟨hlength, behind, hheaders⟩
    rw [read, hheaders]
    exact if_pos hlength

theorem readHeaders_true_ne_waiting (length : Option Nat) (octets : List UInt8) :
    readHeaders true length octets ≠ .waiting := by
  generalize hclosed : true = closed
  fun_induction readHeaders closed length octets <;> grind

/-- A closed stream is not awaited. -/
theorem read_true_ne_waiting (octets : List UInt8) : read true octets ≠ .waiting := by
  intro h
  rw [read] at h
  split at h
  · cases h
  · cases h
  · next hwaiting => exact readHeaders_true_ne_waiting none octets hwaiting
  · cases h
  · split at h
    · cases h
    · simp only at h
      split at h
      · cases h
      · split at h <;> cases h

/-! ## Streams that overflow -/

/-- The messages of a stream are read one after the other, so that of two ways to read some of them
one goes on where the other one stops. -/
theorem Holds.linear {rest' : List UInt8} (h : Holds octets vs rest) (h' : Holds octets ws rest') :
    (∃ us, Holds rest us rest') ∨ ∃ us, Holds rest' us rest := by
  induction h generalizing ws with
  | nil octets => exact .inl ⟨ws, h'⟩
  | cons first later ih =>
    cases h' with
    | nil => exact .inr ⟨_, .cons first later⟩
    | cons first' later' =>
      cases (read_of_message first true).symm.trans (read_of_message first' true)
      exact ih later'

/-- Nothing is read where no message stands. -/
theorem Holds.eq_of_not_message (h : Holds octets vs rest)
    (hnone : ∀ v rest, read true octets ≠ .message v rest) : octets = rest := by
  cases h with
  | nil => rfl
  | cons first => exact absurd (read_of_message first true) (hnone _ _)

/-- Behind whole messages the stream has a header with a length that no memory holds. -/
def Overflows (octets : List UInt8) (n : Nat) : Prop :=
  ∃ vs rest, Holds octets vs rest ∧ read true rest = .breakdown n

/-- The reader of a stream that overflows reads messages until it breaks down. -/
theorem Overflows.read_cases (h : Overflows octets n) (hholds : Holds octets ws behind) :
    (∃ v rest, read true behind = .message v rest) ∨ read true behind = .breakdown n := by
  obtain ⟨vs, rest, hrest, hbreaks⟩ := h
  by_cases hmessage : ∃ v rest, read true behind = .message v rest
  · exact .inl hmessage
  · right
    have hnone : ∀ v rest, read true behind ≠ .message v rest :=
      fun v rest hread => hmessage ⟨v, rest, hread⟩
    rcases hrest.linear hholds with ⟨us, hus⟩ | ⟨us, hus⟩
    · rwa [← hus.eq_of_not_message (by rw [hbreaks]; nofun)]
    · rwa [hus.eq_of_not_message hnone]

theorem overflows_of_read (h : read true octets = .message v rest) :
    Overflows octets n ↔ Overflows rest n := by
  constructor
  · rintro ⟨vs, behind, hholds, hbreaks⟩
    cases hholds with
    | nil => rw [h] at hbreaks; cases hbreaks
    | cons first later =>
      cases h.symm.trans (read_of_message first true)
      exact ⟨_, behind, later, hbreaks⟩
  · rintro ⟨vs, behind, hholds, hbreaks⟩
    exact ⟨_, behind, .cons h hholds, hbreaks⟩

/-- Reading a whole stream ends with a breakdown if and only if the stream overflows. -/
theorem readUpTo_eq_breakdown {fuel : Nat} (hfuel : octets.length < fuel) :
    (readUpTo fuel octets).2 = .breakdown n ↔ Overflows octets n := by
  induction fuel generalizing octets with
  | zero => exact absurd hfuel (Nat.not_lt_zero _)
  | succ fuel ih =>
    have ends {ending : Ending} (hread : readUpTo (fuel + 1) octets = ([], ending))
        (hnone : ¬ ∃ v rest, read true octets = .message v rest)
        (hending : ending = .breakdown n ↔ read true octets = .breakdown n) :
        (readUpTo (fuel + 1) octets).2 = .breakdown n ↔ Overflows octets n := by
      rw [hread, hending]
      refine ⟨fun h => ⟨[], octets, .nil octets, h⟩, fun h => ?_⟩
      exact (h.read_cases (.nil octets)).resolve_left hnone
    cases hread : read true octets with
    | message v rest =>
      have hshorter := length_read hread
      rw [overflows_of_read hread, ← @ih rest (by omega), readUpTo, hread]
    | finished => exact ends (by rw [readUpTo, hread]) (by simp [hread]) (by simp [hread])
    | failed e => exact ends (by rw [readUpTo, hread]) (by simp [hread]) (by simp [hread])
    | waiting => exact absurd hread (read_true_ne_waiting octets)
    | breakdown m => exact ends (by rw [readUpTo, hread]) (by simp [hread]) (by simp [hread])

theorem readAll_eq_breakdown : (readAll octets).2 = .breakdown n ↔ Overflows octets n :=
  readUpTo_eq_breakdown (Nat.lt_succ_self _)

end Protocol.Frame

end AnalyzerClient
