import AnalyzerClient.Proofs.Json.RoundTrip

/-!
# Values that are nested too deep

The text of a value that is nested deeper than `Draft.maxDepth` has no value
(`ofChars_spread_deep`): the draft of what is nested too deep is flawed, and nothing around it gets
a value then.
-/

namespace AnalyzerClient.Json

open Draft (readValue readItem readMoreItems readMember readMoreMembers)

/-- A draft that has no value. -/
def Draft.Worthless (d : Draft) : Prop := ∃ f, d.value = .error f

theorem Draft.Worthless.values_cons {d : Draft} (h : d.Worthless) (ds : List Draft) :
    ∃ f, Draft.values (d :: ds) = .error f := by
  obtain ⟨f, hf⟩ := h
  exact ⟨f, by rw [Draft.values, hf]; rfl⟩

theorem Draft.Worthless.memberValues_cons {d : Draft} (h : d.Worthless) (k : String)
    (ms : List (Except Fault String × Draft)) (before : Dict Json) :
    ∃ f, Draft.memberValues ((.ok k, d) :: ms) before = .error f := by
  obtain ⟨f, hf⟩ := h
  exact ⟨f, by rw [Draft.memberValues]; simp [bind, Except.bind, hf]⟩

/-- Whatever stands behind an item without a value, the items have no values. -/
theorem values_readItem_of_worthless {fuel d : Nat} {cs : List Char}
    (h : (readValue .characters fuel d cs).1.Worthless) :
    ∃ f, Draft.values (readItem .characters (fuel + 1) d cs).1 = .error f := by
  rw [readItem]
  split
  · next hvalue => rw [hvalue] at h; exact h.values_cons []
  · next hvalue => rw [hvalue] at h; exact h.values_cons _

theorem memberValues_of_worthless {t : Draft × Option (List Char)} (h : t.1.Worthless)
    (k : String) (more : List Char → List (Except Fault String × Draft) × Option (List Char))
    (before : Dict Json) :
    ∃ f, Draft.memberValues (match t with
      | (d, none) => ([(Except.ok k, d)], none)
      | (d, some rest) => ((Except.ok k, d) :: (more rest).1, (more rest).2)).1 before =
        .error f := by
  obtain ⟨d, rest⟩ := t
  cases rest with
  | none => exact h.memberValues_cons k [] before
  | some rest => exact h.memberValues_cons k _ before

theorem ofDeep_worthless (u : Units) (inObject : Bool) (cs : List Char) :
    (Draft.ofDeep u inObject cs).1.Worthless := by
  unfold Draft.ofDeep
  cases Draft.skipNested u (2 * cs.length + 2) [inObject] .first cs <;> exact ⟨_, rfl⟩

mutual

theorem readValue_deep (g : Spacing) (level fuel d : Nat) {cs rest : List Char} :
    (v : Json) → v.Proper → v.Integral → d < v.depth →
      3 * (spreadChars g level v).length ≤ fuel → skipGap cs = spreadChars g level v ++ rest →
      (readValue .characters fuel d cs).1.Worthless
  | .null, _, _, hd, _, _ | .bool _, _, _, hd, _, _ | .number _, _, _, hd, _, _
  | .string _, _, _, hd, _, _ => absurd hd (Nat.not_lt_zero _)
  | .array [], _, _, hd, hfuel, hcs => by
    obtain rfl : d = 0 := Nat.lt_one_iff.mp hd
    match fuel, hfuel with
    | fuel + 1, _ =>
      rw [readValue, hcs]
      exact ofDeep_worthless ..
  | .array (v :: vs), hp, hi, hd, hfuel, hcs => by
    rw [spreadChars_array] at hcs
    rw [length_spreadChars_array] at hfuel
    match d, hd, fuel, hfuel with
    | 0, _, fuel + 1, _ =>
      rw [readValue, hcs]
      exact ofDeep_worthless ..
    | d + 1, hd, fuel + 2, hfuel =>
      obtain ⟨c, tail, hhead, -, hc, -⟩ := spreadItems_head g (level + 1) vs hi.1
        (g.line level ++ ']' :: rest)
      obtain ⟨f, hf⟩ := readItem_deep g (level + 1) fuel d
        (skipGap_close (g.line_gap level) (by decide) rest)
        (numberEnd_of_gap (g.line_gap level) (numberEnd_cons (.inr (.inl rfl)))) (v :: vs)
        hp hi (Nat.lt_of_succ_lt_succ hd) (by omega) rfl
      refine ⟨f, ?_⟩
      rw [readValue, hcs]
      simp only [readItems_of_head hhead hc, Draft.value, hf]
      rfl
  | .object [], hp, hi, hd, hfuel, hcs => by
    obtain rfl : d = 0 := Nat.lt_one_iff.mp hd
    match fuel, hfuel with
    | fuel + 1, _ =>
      rw [readValue, hcs]
      exact ofDeep_worthless ..
  | .object (m :: ms), hp, hi, hd, hfuel, hcs => by
    rw [spreadChars_object] at hcs
    rw [length_spreadChars_object] at hfuel
    match d, hd, fuel, hfuel with
    | 0, _, fuel + 1, _ =>
      rw [readValue, hcs]
      exact ofDeep_worthless ..
    | d + 1, hd, fuel + 2, hfuel =>
      obtain ⟨tail, hhead⟩ := spreadMembers_head g (level + 1) m ms (g.line level ++ '}' :: rest)
      obtain ⟨f, hf⟩ := readMember_deep g (level + 1) fuel d
        (skipGap_close (g.line_gap level) (by decide) rest)
        (numberEnd_of_gap (g.line_gap level) (numberEnd_cons (.inr (.inr rfl)))) (m :: ms) []
        hp.2 hi (Nat.lt_of_succ_lt_succ hd) (by omega) rfl
      refine ⟨f, ?_⟩
      rw [readValue, hcs]
      simp only [readMembers_of_head hhead (by decide : '"' ≠ '}'), Draft.value, hf]
      rfl

theorem readItem_deep (g : Spacing) (level fuel d : Nat) {cs close rest : List Char}
    (hclose : skipGap close = ']' :: rest) (hend : NumberEnd close) :
    (vs : List Json) → ProperItems vs → IntegralItems vs → d < depthItems vs →
      3 * (spreadItems g level vs).length + 2 ≤ fuel →
      skipGap cs = skipGap (spreadItems g level vs ++ close) →
      ∃ f, Draft.values (readItem .characters fuel d cs).1 = .error f
  | [], _, _, hd, _, _ => absurd hd (Nat.not_lt_zero _)
  | [v], hp, hi, hd, hfuel, hcs => by
    rw [skipGap_spreadItems hi.1] at hcs
    have hlength := length_spreadItems_singleton g level v
    have hdepth : d < v.depth := by simpa [depthItems] using hd
    match fuel, hfuel with
    | fuel + 1, hfuel =>
      exact values_readItem_of_worthless
        (readValue_deep g level fuel d v hp.1 hi.1 hdepth (by omega) hcs)
  | v :: w :: vs, hp, hi, hd, hfuel, hcs => by
    rw [skipGap_spreadItems_cons hi.1] at hcs
    have hlength := length_spreadItems_cons g level v w vs
    match fuel, hfuel with
    | fuel + 2, hfuel =>
      by_cases hv : d < v.depth
      · exact values_readItem_of_worthless
          (readValue_deep g level (fuel + 1) d v hp.1 hi.1 hv (by omega) hcs)
      -- The first item is read, so that one behind it is too deep.
      · have hrest : d < depthItems (w :: vs) := by rw [depthItems] at hd; omega
        have hvalue := readValue_spread g level (fuel + 1) d v hp.1.ranged hi.1 (Nat.not_lt.mp hv)
          (by omega) (numberEnd_cons (.inl rfl)) hcs
        obtain ⟨f, hf⟩ := readItem_deep g level fuel d hclose hend (w :: vs) hp.2 hi.2 hrest
          (by omega) rfl
        refine ⟨f, ?_⟩
        rw [readItem, hvalue]
        simp only [readMoreItems, skipGap_of_head (c := ',') (by decide), Draft.values,
          value_ofJson hp.1, hf]
        rfl

theorem readMember_deep (g : Spacing) (level fuel d : Nat) {cs close rest : List Char}
    (hclose : skipGap close = '}' :: rest) (hend : NumberEnd close) :
    (ms : List (String × Json)) → (before : Dict Json) → ProperMembers ms → IntegralMembers ms →
      d < depthMembers ms → 3 * (spreadMembers g level ms).length + 2 ≤ fuel →
      skipGap cs = skipGap (spreadMembers g level ms ++ close) →
      ∃ f, Draft.memberValues (readMember .characters fuel d cs).1 before = .error f
  | [], _, _, _, hd, _, _ => absurd hd (Nat.not_lt_zero _)
  | [(k, v)], before, hp, hi, hd, hfuel, hcs => by
    have hlength := length_spreadMembers_singleton g level v k
    have hdepth : d < v.depth := by simpa [depthMembers] using hd
    match fuel, hfuel with
    | fuel + 1, hfuel =>
      have hvalue := readValue_deep g level fuel d v hp.1 hi.1 hdepth (by omega)
        (skipGap_spreadChars g level g.space_gap hi.1 close)
      rw [readMember, hcs, skipGap_spreadMembers]
      simp only [readString_quoted, text_quoted, skipGap_of_head (c := ':') (by decide)]
      exact memberValues_of_worthless hvalue k _ before
  | (k, v) :: m :: ms, before, hp, hi, hd, hfuel, hcs => by
    have hlength := length_spreadMembers_cons g level v k m ms
    have hskip := skipGap_spreadChars g level g.space_gap hi.1
      (',' :: (spreadMembers g level (m :: ms) ++ close))
    match fuel, hfuel with
    | fuel + 2, hfuel =>
      rw [readMember, hcs, skipGap_spreadMembers_cons]
      simp only [readString_quoted, text_quoted, skipGap_of_head (c := ':') (by decide)]
      by_cases hv : d < v.depth
      · exact memberValues_of_worthless
          (readValue_deep g level (fuel + 1) d v hp.1 hi.1 hv (by omega) hskip) k _ before
      · have hrest : d < depthMembers (m :: ms) := by
          rw [depthMembers] at hd; omega
        have hvalue := readValue_spread g level (fuel + 1) d v hp.1.ranged hi.1 (Nat.not_lt.mp hv)
          (by omega) (numberEnd_cons (.inl rfl)) hskip
        obtain ⟨f, hf⟩ := readMember_deep g level fuel d hclose hend (m :: ms)
          (before.insert k v) hp.2 hi.2 hrest (by omega) rfl
        refine ⟨f, ?_⟩
        simp only [hvalue, readMoreMembers, skipGap_of_head (c := ',') (by decide),
          Draft.memberValues, bind, Except.bind, value_ofJson hp.1, hf]

end

/-- A text has no value when what is read of it has none. -/
theorem ofChars_of_worthless {cs : List Char}
    (h : (readValue .characters (3 * cs.length + 3) Draft.maxDepth cs).1.Worthless) :
    ∃ f, ofChars cs = .error f := by
  have hdraft : (Draft.ofText .characters cs).1.Worthless := by
    unfold Draft.ofText
    split
    · next hvalue => rw [hvalue] at h; exact h
    · next hvalue =>
      rw [hvalue] at h
      split <;> exact h
  obtain ⟨f, hf⟩ := hdraft
  refine ⟨f, ?_⟩
  rw [ofChars, ofUnits]
  simp only [bind, Except.bind, hf]

/-- A value that is nested too deep is not read from its text. -/
theorem ofChars_spread_deep (g : Spacing) (level : Nat) {v : Json} (hp : v.Proper)
    (hi : v.Integral) (hd : Draft.maxDepth < v.depth) :
    ∃ f, ofChars (spreadChars g level v) = .error f := by
  obtain ⟨c, cs, htext, hc, -⟩ := spreadChars_head g level hi
  refine ofChars_of_worthless (readValue_deep g level _ _ v hp hi hd (by omega) (?_ : _ = _ ++ []))
  rw [htext, skipGap_of_head hc, List.append_nil]

end AnalyzerClient.Json
