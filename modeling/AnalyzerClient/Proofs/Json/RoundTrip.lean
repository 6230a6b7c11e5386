import AnalyzerClient.Proofs.Json.Layout
import AnalyzerClient.Proofs.Json.Numeral
import AnalyzerClient.Proofs.Json.Order
import AnalyzerClient.Proofs.Json.Quote

/-!
# Reading what was written

A value without floating-point numbers is read again from its text in any form, unless it is nested
too deep (`ofChars_spread`), and an object also when its members are written in another order
(`ofChars_spread_members`). The fuel of the readers suffices because every call but two for an item
or member takes a character.
-/

namespace AnalyzerClient.Json

open Draft (readValue readItems readItem readMoreItems readMembers readMember readMoreMembers
  ofScalar)

variable {g : Spacing} {level fuel d : Nat} {c : Char} {cs gap rest close : List Char}

-- The equations are generated here, once, so that no proof waits for another to do it.
attribute [grind =] readValue readItems readItem readMoreItems readMembers readMember
  readMoreMembers ofScalar

/-! ## Gaps -/

theorem skipGap_append (hgap : ∀ c ∈ gap, isGap c = true) (cs : List Char) :
    skipGap (gap ++ cs) = skipGap cs := List.dropWhile_append_of_pos hgap

theorem skipGap_of_head (hc : isGap c = false) : skipGap (c :: cs) = c :: cs := by
  rw [skipGap, List.dropWhile_cons, hc]; rfl

theorem skipGap_close (hgap : ∀ c ∈ gap, isGap c = true) (hc : isGap c = false)
    (rest : List Char) : skipGap (gap ++ c :: rest) = c :: rest := by
  rw [skipGap_append hgap, skipGap_of_head hc]

theorem skipGap_skipGap (cs : List Char) : skipGap (skipGap cs) = skipGap cs := by
  induction cs with
  | nil => rfl
  | cons c cs ih =>
    cases hc : isGap c with
    | true =>
      have hcons : skipGap (c :: cs) = skipGap cs := List.dropWhile_cons_of_pos hc
      rw [hcons, ih]
    | false => rw [skipGap_of_head hc, skipGap_of_head hc]

theorem readValue_skipGap (u : Units) (fuel d : Nat) (cs : List Char) :
    readValue u fuel d (skipGap cs) = readValue u fuel d cs := by
  cases fuel with
  | zero => rw [readValue, readValue]
  | succ fuel => rw [readValue, readValue, skipGap_skipGap]

theorem readItem_skipGap (u : Units) (fuel d : Nat) (cs : List Char) :
    readItem u fuel d (skipGap cs) = readItem u fuel d cs := by
  cases fuel with
  | zero => rw [readItem, readItem]
  | succ fuel => rw [readItem, readItem, readValue_skipGap]

theorem readMember_skipGap (u : Units) (fuel d : Nat) (cs : List Char) :
    readMember u fuel d (skipGap cs) = readMember u fuel d cs := by
  cases fuel with
  | zero => rw [readMember, readMember]
  | succ fuel => rw [readMember, readMember, skipGap_skipGap]

/-! ## Numbers -/

theorem isDigit_cases {c : Char} (h : Text.Numeral.isDigit c = true) :
    isGap c = false ∧ c ≠ '[' ∧ c ≠ '{' ∧ c ≠ ']' ∧ c ≠ '}' ∧ c ≠ '"' ∧ c ≠ 'n' ∧ c ≠ 't' ∧
      c ≠ 'f' := by
  refine ⟨?_, ?_⟩
  · cases hc : isGap c with
    | false => rfl
    | true =>
      simp only [isGap, Bool.or_eq_true, decide_eq_true_eq] at hc
      rcases hc with ((rfl | rfl) | rfl) | rfl <;> cases h
  · refine ⟨?_, ?_, ?_, ?_, ?_, ?_, ?_, ?_⟩ <;> (rintro rfl; cases h)

/-- The first character of an integer. -/
theorem renderInt_head (n : Int) : ∃ c cs, (Text.Numeral.renderInt n).toList = c :: cs ∧
    (c = '-' ∨ Text.Numeral.isDigit c = true) := by
  rw [← NumberToken.chars_ofInt]
  exact NumberToken.exists_cons _

theorem ofScalar_of_digit (hc : c = '-' ∨ Text.Numeral.isDigit c = true) (cs : List Char) :
    ofScalar .characters (c :: cs) = Draft.ofNumber (c :: cs) := by
  have hhead : c ≠ '"' ∧ c ≠ 'n' ∧ c ≠ 't' ∧ c ≠ 'f' := by
    rcases hc with rfl | hc
    · decide
    · exact (isDigit_cases hc).2.2.2.2.2
  obtain ⟨hquote, hn, ht, hf⟩ := hhead
  rw [ofScalar, if_pos (by simpa using hc)]
  · exact hquote
  · exact hn
  · exact ht
  · exact hf

/-! ## Values -/

/-- The first character of a value is no gap and no closing bracket. -/
theorem spreadChars_head (g : Spacing) (level : Nat) {v : Json} (hv : v.Integral) :
    ∃ c cs, spreadChars g level v = c :: cs ∧ isGap c = false ∧ c ≠ ']' ∧ c ≠ '}' := by
  cases v with
  | null => exact ⟨'n', _, rfl, by decide⟩
  | bool b => cases b <;> exact ⟨_, _, rfl, by decide⟩
  | number n =>
    cases n with
    | float x => cases hv
    | int n =>
      obtain ⟨c, cs, hcs, hc⟩ := renderInt_head n
      refine ⟨c, cs, hcs, ?_⟩
      rcases hc with rfl | hc
      · decide
      · exact ⟨(isDigit_cases hc).1, (isDigit_cases hc).2.2.2.1, (isDigit_cases hc).2.2.2.2.1⟩
  | string s => exact ⟨'"', _, rfl, by decide⟩
  | array items => cases items <;> exact ⟨'[', _, rfl, by decide⟩
  | object members => cases members <;> exact ⟨'{', _, rfl, by decide⟩

theorem skipGap_spreadChars (g : Spacing) (level : Nat) {v : Json}
    (hgap : ∀ c ∈ gap, isGap c = true) (hv : v.Integral) (rest : List Char) :
    skipGap (gap ++ (spreadChars g level v ++ rest)) = spreadChars g level v ++ rest := by
  obtain ⟨c, cs, htext, hc, -⟩ := spreadChars_head g level hv
  rw [skipGap_append hgap, htext, List.cons_append, skipGap_of_head hc]

/-- The text of items from the first one on. -/
theorem skipGap_spreadItems {v : Json} (hv : v.Integral) (rest : List Char) :
    skipGap (spreadItems g level [v] ++ rest) = spreadChars g level v ++ rest := by
  rw [spreadItems_singleton, List.append_assoc,
    skipGap_spreadChars g level (g.line_gap level) hv]

theorem skipGap_spreadItems_cons {v w : Json} {vs : List Json} (hv : v.Integral)
    (rest : List Char) :
    skipGap (spreadItems g level (v :: w :: vs) ++ rest) =
      spreadChars g level v ++ ',' :: (spreadItems g level (w :: vs) ++ rest) := by
  rw [spreadItems_cons, List.append_assoc, List.append_assoc,
    skipGap_spreadChars g level (g.line_gap level) hv]
  rfl

theorem spreadItems_head (g : Spacing) (level : Nat) {v : Json} (vs : List Json)
    (hv : v.Integral) (rest : List Char) :
    ∃ c cs, skipGap (spreadItems g level (v :: vs) ++ rest) = c :: cs ∧ isGap c = false ∧
      c ≠ ']' ∧ c ≠ '}' := by
  obtain ⟨c, cs, htext, hc⟩ := spreadChars_head g level hv
  cases vs with
  | nil => exact ⟨c, cs ++ rest, by rw [skipGap_spreadItems hv, htext]; rfl, hc⟩
  | cons w vs => exact ⟨c, _, by rw [skipGap_spreadItems_cons hv, htext]; rfl, hc⟩

/-- The text of members from the first key on. -/
theorem skipGap_spreadMembers {k : String} {v : Json} (rest : List Char) :
    skipGap (spreadMembers g level [(k, v)] ++ rest) =
      '"' :: (k.toList.flatMap escape ++
        '"' :: ':' :: (g.space ++ (spreadChars g level v ++ rest))) := by
  have hassoc : spreadMembers g level [(k, v)] ++ rest = g.line level ++
      '"' :: (k.toList.flatMap escape ++
        '"' :: ':' :: (g.space ++ (spreadChars g level v ++ rest))) := by
    simp [spreadMembers_singleton, quote]
  rw [hassoc, skipGap_append (g.line_gap level), skipGap_of_head (by decide)]

theorem skipGap_spreadMembers_cons {k : String} {v : Json} {m : String × Json}
    {ms : List (String × Json)} (rest : List Char) :
    skipGap (spreadMembers g level ((k, v) :: m :: ms) ++ rest) =
      '"' :: (k.toList.flatMap escape ++ '"' :: ':' :: (g.space ++ (spreadChars g level v ++
        ',' :: (spreadMembers g level (m :: ms) ++ rest)))) := by
  have hassoc : spreadMembers g level ((k, v) :: m :: ms) ++ rest = g.line level ++
      '"' :: (k.toList.flatMap escape ++ '"' :: ':' :: (g.space ++ (spreadChars g level v ++
        ',' :: (spreadMembers g level (m :: ms) ++ rest)))) := by
    simp [spreadMembers_cons, quote]
  rw [hassoc, skipGap_append (g.line_gap level), skipGap_of_head (by decide)]

theorem spreadMembers_head (g : Spacing) (level : Nat) (m : String × Json)
    (ms : List (String × Json)) (rest : List Char) :
    ∃ tail, skipGap (spreadMembers g level (m :: ms) ++ rest) = '"' :: tail := by
  cases ms with
  | nil => exact ⟨_, skipGap_spreadMembers rest⟩
  | cons m' ms => exact ⟨_, skipGap_spreadMembers_cons rest⟩

theorem readValue_of_scalar (hcs : skipGap cs = c :: rest) (harray : c ≠ '[') (hobject : c ≠ '{') :
    readValue .characters (fuel + 1) d cs = ofScalar .characters (c :: rest) := by
  rw [readValue, hcs]
  split
  · next h => exact absurd (List.cons.inj h).1 harray
  · next h => exact absurd (List.cons.inj h).1 hobject
  · rfl

theorem readValue_int {n : Int} (hn : (Number.int n).InRange) (hrest : NumberEnd rest)
    (hcs : skipGap cs = (Text.Numeral.renderInt n).toList ++ rest) :
    readValue .characters (fuel + 1) d cs = (.number (.int n), some rest) := by
  obtain ⟨c, tail, htext, hc⟩ := renderInt_head n
  have hnumber := readNumber_renderInt n hrest
  rw [htext, List.cons_append] at hnumber hcs
  have hof : Draft.ofNumber (c :: (tail ++ rest)) = (.number (.int n), some rest) := by
    rw [Draft.ofNumber, hnumber]
    simp only [value?_numberText hn]
  have hhead : c ≠ '[' ∧ c ≠ '{' := by
    rcases hc with rfl | hc
    · decide
    · exact ⟨(isDigit_cases hc).2.1, (isDigit_cases hc).2.2.1⟩
  rw [readValue_of_scalar hcs hhead.1 hhead.2, ofScalar_of_digit hc, hof]

theorem readItems_of_head {X : List Char} (hX : skipGap X = c :: cs) (hc : c ≠ ']') :
    readItems .characters (fuel + 1) d X = readItem .characters fuel d X := by
  rw [readItems, ← readItem_skipGap, hX]
  split
  · next h => exact absurd (List.cons.inj h).1 hc
  · rfl

theorem readMembers_of_head {X : List Char} (hX : skipGap X = c :: cs) (hc : c ≠ '}') :
    readMembers .characters (fuel + 1) d X = readMember .characters fuel d X := by
  rw [readMembers, ← readMember_skipGap, hX]
  split
  · next h => exact absurd (List.cons.inj h).1 hc
  · rfl

/-- A gap ends a number. -/
theorem numberEnd_of_gap (hgap : ∀ c ∈ gap, isGap c = true) (hrest : NumberEnd rest) :
    NumberEnd (gap ++ rest) := by
  cases gap with
  | nil => exact hrest
  | cons a gap =>
    intro b cs h
    obtain ⟨rfl, -⟩ := List.cons.inj h
    have ha := hgap a List.mem_cons_self
    simp only [isGap, Bool.or_eq_true, decide_eq_true_eq] at ha
    rcases ha with ((rfl | rfl) | rfl) | rfl <;> decide

theorem numberEnd_cons (h : c = ',' ∨ c = ']' ∨ c = '}') : NumberEnd (c :: rest) := by
  intro b cs hcons
  obtain ⟨rfl, -⟩ := List.cons.inj hcons
  rcases h with rfl | rfl | rfl <;> decide

/-- An object is read when its members are. -/
theorem readValue_of_readMember {m : String × Json} {ms : List (String × Json)}
    (hcs : skipGap cs = spreadChars g level (.object (m :: ms)) ++ rest)
    (hmembers : readMember .characters fuel d
      (spreadMembers g (level + 1) (m :: ms) ++ (g.line level ++ '}' :: rest)) =
        (Draft.ofMembers (m :: ms), some rest)) :
    readValue .characters (fuel + 2) (d + 1) cs =
      (Draft.ofJson (.object (m :: ms)), some rest) := by
  obtain ⟨tail, hhead⟩ := spreadMembers_head g (level + 1) m ms (g.line level ++ '}' :: rest)
  rw [spreadChars_object] at hcs
  rw [readValue, hcs]
  simp only [readMembers_of_head hhead (by decide : '"' ≠ '}'), hmembers]
  rfl

mutual

theorem readValue_spread (g : Spacing) (level fuel d : Nat) {cs rest : List Char} :
    (v : Json) → v.Ranged → v.Integral → v.depth ≤ d →
      3 * (spreadChars g level v).length ≤ fuel → NumberEnd rest →
      skipGap cs = spreadChars g level v ++ rest →
      readValue .characters fuel d cs = (Draft.ofJson v, some rest)
  | .null, _, _, _, hfuel, _, hcs | .bool true, _, _, _, hfuel, _, hcs
  | .bool false, _, _, _, hfuel, _, hcs => by
    cases fuel with
    | zero => cases hfuel
    | succ fuel => rw [readValue_of_scalar hcs (by decide) (by decide)]; rfl
  | .number (.float _), _, hi, _, _, _, _ => by cases hi
  | .number (.int n), hp, _, _, hfuel, hrest, hcs => by
    cases fuel with
    | zero =>
      obtain ⟨c, tail, htext, -⟩ := renderInt_head n
      rw [spreadChars, Number.render, htext] at hfuel
      cases hfuel
    | succ fuel => exact readValue_int hp hrest hcs
  | .string s, _, _, _, hfuel, _, hcs => by
    cases fuel with
    | zero => cases hfuel
    | succ fuel =>
      have htext : spreadChars g level (.string s) ++ rest =
          '"' :: (s.toList.flatMap escape ++ '"' :: rest) := by simp [spreadChars, quote]
      rw [htext] at hcs
      rw [readValue_of_scalar hcs (by decide) (by decide)]
      exact ofString_quoted s rest
  | .array [], _, _, hd, hfuel, _, hcs => by
    match d, hd with
    | d + 1, _ =>
      match fuel, hfuel with
      | fuel + 2, _ =>
        rw [readValue, hcs]
        simp only [spreadChars, List.cons_append, List.nil_append]
        rw [readItems, skipGap_of_head (by decide)]
        rfl
  | .array (v :: vs), hp, hi, hd, hfuel, _, hcs => by
    rw [spreadChars_array] at hcs
    rw [length_spreadChars_array] at hfuel
    match d, hd with
    | d + 1, hd =>
      match fuel, hfuel with
      | fuel + 2, hfuel =>
        obtain ⟨c, tail, hhead, -, hc, -⟩ := spreadItems_head g (level + 1) vs hi.1
          (g.line level ++ ']' :: rest)
        have hitems := readItem_spread g (level + 1) fuel d
          (skipGap_close (g.line_gap level) (by decide) rest)
          (numberEnd_of_gap (g.line_gap level) (numberEnd_cons (.inr (.inl rfl)))) (v :: vs) nofun
          hp hi (Nat.le_of_succ_le_succ hd) (by omega) rfl
        rw [readValue, hcs]
        simp only [readItems_of_head hhead hc, hitems]
        rfl
  | .object [], _, _, hd, hfuel, _, hcs => by
    match d, hd with
    | d + 1, _ =>
      match fuel, hfuel with
      | fuel + 2, _ =>
        rw [readValue, hcs]
        simp only [spreadChars, List.cons_append, List.nil_append]
        rw [readMembers, skipGap_of_head (by decide)]
        rfl
  | .object (m :: ms), hp, hi, hd, hfuel, _, hcs => by
    rw [length_spreadChars_object] at hfuel
    match d, hd with
    | d + 1, hd =>
      match fuel, hfuel with
      | fuel + 2, hfuel =>
        exact readValue_of_readMember hcs (readMember_spread g (level + 1) fuel d
          (skipGap_close (g.line_gap level) (by decide) rest)
          (numberEnd_of_gap (g.line_gap level) (numberEnd_cons (.inr (.inr rfl)))) (m :: ms) nofun
          hp hi (Nat.le_of_succ_le_succ hd) (by omega) rfl)

theorem readItem_spread (g : Spacing) (level fuel d : Nat) {cs close rest : List Char}
    (hclose : skipGap close = ']' :: rest) (hend : NumberEnd close) :
    (vs : List Json) → vs ≠ [] → RangedItems vs → IntegralItems vs → depthItems vs ≤ d →
      3 * (spreadItems g level vs).length + 2 ≤ fuel →
      skipGap cs = skipGap (spreadItems g level vs ++ close) →
      readItem .characters fuel d cs = (Draft.ofItems vs, some rest)
  | [], hne, _, _, _, _, _ => absurd rfl hne
  | [v], _, hp, hi, hd, hfuel, hcs => by
    rw [skipGap_spreadItems hi.1] at hcs
    have hlength := length_spreadItems_singleton g level v
    match fuel, hfuel with
    | fuel + 2, hfuel =>
      have hvalue := readValue_spread g level (fuel + 1) d v hp.1 hi.1
        (Nat.le_trans (Nat.le_max_left ..) hd) (by omega) hend hcs
      rw [readItem, hvalue]
      simp only [readMoreItems, hclose]
      rfl
  | v :: w :: vs, _, hp, hi, hd, hfuel, hcs => by
    rw [skipGap_spreadItems_cons hi.1] at hcs
    have hlength := length_spreadItems_cons g level v w vs
    match fuel, hfuel with
    | fuel + 2, hfuel =>
      have hvalue := readValue_spread g level (fuel + 1) d v hp.1 hi.1
        (Nat.le_trans (Nat.le_max_left ..) hd) (by omega) (numberEnd_cons (.inl rfl))
        hcs
      have hitems := readItem_spread g level fuel d hclose hend (w :: vs) nofun hp.2 hi.2
        (Nat.le_trans (Nat.le_max_right ..) hd) (by omega) rfl
      rw [readItem, hvalue]
      simp only [readMoreItems, skipGap_of_head (c := ',') (by decide), hitems]
      rfl

theorem readMember_spread (g : Spacing) (level fuel d : Nat) {cs close rest : List Char}
    (hclose : skipGap close = '}' :: rest) (hend : NumberEnd close) :
    (ms : List (String × Json)) → ms ≠ [] → RangedMembers ms → IntegralMembers ms →
      depthMembers ms ≤ d → 3 * (spreadMembers g level ms).length + 2 ≤ fuel →
      skipGap cs = skipGap (spreadMembers g level ms ++ close) →
      readMember .characters fuel d cs = (Draft.ofMembers ms, some rest)
  | [], hne, _, _, _, _, _ => absurd rfl hne
  | [(k, v)], _, hp, hi, hd, hfuel, hcs => by
    have hlength := length_spreadMembers_singleton g level v k
    have hskip : skipGap (g.space ++ (spreadChars g level v ++ close)) =
        spreadChars g level v ++ close := skipGap_spreadChars g level g.space_gap hi.1 close
    match fuel, hfuel with
    | fuel + 2, hfuel =>
      have hvalue := readValue_spread g level (fuel + 1) d v hp.1 hi.1
        (Nat.le_trans (Nat.le_max_left ..) hd) (by omega) hend hskip
      rw [readMember, hcs, skipGap_spreadMembers]
      simp only [readString_quoted, text_quoted, skipGap_of_head (c := ':') (by decide), hvalue,
        readMoreMembers, hclose]
      rfl
  | (k, v) :: m :: ms, _, hp, hi, hd, hfuel, hcs => by
    have hlength := length_spreadMembers_cons g level v k m ms
    have hskip := skipGap_spreadChars g level g.space_gap hi.1
      (',' :: (spreadMembers g level (m :: ms) ++ close))
    match fuel, hfuel with
    | fuel + 2, hfuel =>
      have hvalue := readValue_spread g level (fuel + 1) d v hp.1 hi.1
        (Nat.le_trans (Nat.le_max_left ..) hd) (by omega) (numberEnd_cons (.inl rfl)) hskip
      have hmembers := readMember_spread g level fuel d hclose hend (m :: ms) nofun hp.2 hi.2
        (Nat.le_trans (Nat.le_max_right ..) hd) (by omega) rfl
      rw [readMember, hcs, skipGap_spreadMembers_cons]
      simp only [readString_quoted, text_quoted, skipGap_of_head (c := ':') (by decide), hvalue,
        readMoreMembers, skipGap_of_head (c := ',') (by decide), hmembers]
      rfl

end

/-! ## Values and texts -/

theorem ofChars_of_readValue {draft : Draft} {v : Json} {text : List Char}
    (hread : readValue .characters (3 * text.length + 3) Draft.maxDepth text = (draft, some []))
    (hvalue : draft.value = .ok v) : ofChars text = .ok v := by
  have hdraft : Draft.ofText .characters text = (draft, none) := by
    rw [Draft.ofText, hread]; rfl
  rw [ofChars, ofUnits, hdraft]
  simp only [bind, Except.bind, hvalue]

/-- A value that is not nested too deep is read again from its text. -/
theorem ofChars_spread {v : Json} (hp : v.Proper) (hi : v.Integral)
    (hd : v.depth ≤ Draft.maxDepth) : ofChars (spreadChars g level v) = .ok v := by
  refine ofChars_of_readValue ?_ (value_ofJson hp)
  obtain ⟨c, cs, htext, hc, -⟩ := spreadChars_head g level hi
  refine readValue_spread g level _ _ v hp.ranged hi hd (by omega) nofun ?_
  rw [htext, skipGap_of_head hc, List.append_nil]

/-- The members of an object may be written in any order. -/
theorem ofChars_spread_members {members : List (String × Json)} (hp : ProperMembers members)
    (hi : IntegralMembers members) (hd : depthMembers members < Draft.maxDepth) :
    ofChars (spreadChars g level (.object members)) = .ok (mkObject members) := by
  cases members with
  | nil => exact ofChars_spread (v := .object []) ⟨.nil, trivial⟩ trivial (by decide)
  | cons m ms =>
    have hvalue : (Draft.ofJson (.object (m :: ms))).value = .ok (mkObject (m :: ms)) := by
      rw [Draft.ofJson, Draft.value, memberValues_ofMembers hp]
      rfl
    refine ofChars_of_readValue ?_ hvalue
    have hfuel := length_spreadChars_object g level m ms
    exact readValue_of_readMember (List.append_nil _ ▸ rfl) (readMember_spread g (level + 1) _ _
      (skipGap_close (g.line_gap level) (by decide) [])
      (numberEnd_of_gap (g.line_gap level) (numberEnd_cons (.inr (.inr rfl)))) (m :: ms) nofun
      hp.ranged hi (Nat.le_of_lt_succ hd) (by omega) rfl)

end AnalyzerClient.Json
