import AnalyzerClient.Proofs.Json.Document
import AnalyzerClient.Proofs.Json.Record

/-!
# What is accepted

Every text that has a value spells the tokens of a document (`exists_document_of_ofChars`). A reader
that gives a draft with a value has passed over just the tokens of a part of a document, whatever
tokens stand behind it; a draft without a value says nothing about the text.
-/

namespace AnalyzerClient.Json

open Draft (ofScalar readValue readItems readItem readMoreItems readMembers readMember
  readMoreMembers)
open Text.Numeral (isDigit)

variable {ts : List Token} {cs rest : List Char} {m : Mark}

/-! ## Numbers -/

theorem readDigits_sound {ds : List Char} (h : readDigits cs = .ok (ds, rest)) :
    ∃ digits : Digits, digits.chars = ds ∧ cs = ds ++ rest ∧ NoDigit rest := by
  unfold readDigits at h
  split at h
  · cases h
  · next c tail =>
    split at h
    · next hc =>
      cases h
      refine ⟨⟨c :: tail.takeWhile isDigit, List.cons_ne_nil _ _, ?_⟩, rfl, ?_, ?_⟩
      · intro a ha
        rcases List.mem_cons.mp ha with rfl | ha
        · exact hc
        · exact List.mem_takeWhile_imp ha
      · rw [List.cons_append, List.takeWhile_append_dropWhile]
      · intro a as has
        have hhead := List.head?_dropWhile_not isDigit tail
        rw [has] at hhead
        exact hhead
    · cases h

theorem readWhole_sound {ds : List Char} (h : readWhole cs = .ok (ds, rest)) :
    ∃ digits : Digits, digits.chars = ds ∧ cs = ds ++ rest ∧ NoDigit rest ∧
      ∀ more, ds = '0' :: more → more = [] := by
  unfold readWhole at h
  split at h
  · next c tail =>
    split at h
    · cases h
    · next hc =>
      cases h
      refine ⟨⟨['0'], List.cons_ne_nil _ _, List.forall_mem_singleton.mpr rfl⟩, rfl, rfl,
        noDigit_cons (Bool.eq_false_iff.mpr hc), ?_⟩
      intro more hmore
      exact (List.cons.inj hmore).2.symm
  · next hcs =>
    obtain ⟨digits, hdigits, rfl, hrest⟩ := readDigits_sound h
    refine ⟨digits, hdigits, rfl, hrest, ?_⟩
    rintro more rfl
    cases more with
    | nil => rfl
    | cons c more => exact absurd rfl (hcs c (more ++ rest))

theorem readFraction_sound {f : Option (List Char)} (h : readFraction cs = .ok (f, rest)) :
    ∃ fraction : Option Digits, cs = fractionChars fraction ++ rest ∧
      (NoDigit cs → NoDigit rest) := by
  unfold readFraction at h
  split at h
  · next tail =>
    cases hdigits : readDigits tail with
    | error f => rw [hdigits] at h; cases h
    | ok p =>
      obtain ⟨ds, more⟩ := p
      rw [hdigits] at h
      cases h
      obtain ⟨digits, rfl, rfl, hrest⟩ := readDigits_sound hdigits
      exact ⟨some digits, rfl, fun _ => hrest⟩
  · cases h
    exact ⟨none, rfl, id⟩

theorem readExponent_sound {e : Option (Bool × List Char)} (h : readExponent cs = .ok (e, rest)) :
    ∃ exponent : Option ExponentToken, cs = exponentChars exponent ++ rest ∧
      (NoDigit cs → NoDigit rest) := by
  have sound (sign : Option Bool) {c : Char} {negative : Bool} {digits : List Char}
      (hc : c = 'e' ∨ c = 'E')
      (h : (readDigits digits).map (fun p => (some (negative, p.1), p.2)) = .ok (e, rest)) :
      ∃ exponent : Option ExponentToken,
        c :: (signChars sign ++ digits) = exponentChars exponent ++ rest ∧ NoDigit rest := by
    cases hdigits : readDigits digits with
    | error f => rw [hdigits] at h; cases h
    | ok p =>
      obtain ⟨ds, more⟩ := p
      rw [hdigits] at h
      cases h
      obtain ⟨digits, rfl, rfl, hrest⟩ := readDigits_sound hdigits
      refine ⟨some ⟨c = 'E', sign, digits⟩, ?_, hrest⟩
      have hcapital : (if decide (c = 'E') = true then 'E' else 'e') = c := by
        rcases hc with rfl | rfl <;> rfl
      rw [exponentChars, hcapital, List.cons_append, List.append_assoc]
  unfold readExponent at h
  split at h
  · next c tail =>
    split at h
    · next hc =>
      have hc : c = 'e' ∨ c = 'E' := by simpa using hc
      split at h
      next negative digits hsign =>
      split at hsign <;> cases hsign
      · exact (sound (some false) hc h).imp fun _ h => ⟨h.1, fun _ => h.2⟩
      · exact (sound (some true) hc h).imp fun _ h => ⟨h.1, fun _ => h.2⟩
      · exact (sound none hc h).imp fun _ h => ⟨h.1, fun _ => h.2⟩
    · cases h
      exact ⟨none, rfl, id⟩
  · cases h
    exact ⟨none, rfl, id⟩

theorem readNumber_sound {t : NumberText} (h : readNumber cs = .ok (t, rest)) :
    ∃ n : NumberToken, cs = n.chars ++ rest ∧ NoDigit rest := by
  have sound (negative : Bool) (digits : List Char)
      (hcs : cs = (if negative then ['-'] else []) ++ digits)
      (hread : (readWhole digits >>= fun p => readFraction p.2 >>= fun q =>
        readExponent q.2 >>= fun r => .ok (⟨negative, p.1, q.1, r.1⟩, r.2)) = .ok (t, rest)) :
      ∃ n : NumberToken, cs = n.chars ++ rest ∧ NoDigit rest := by
    simp only [bind_eq_ok] at hread
    obtain ⟨⟨ds, behind⟩, hwhole, ⟨f, behind'⟩, hfraction, ⟨e, behind''⟩, hexponent, hread⟩ := hread
    obtain ⟨whole, rfl, rfl, hnone, hzero⟩ := readWhole_sound hwhole
    obtain ⟨fraction, rfl, hnone'⟩ := readFraction_sound hfraction
    obtain ⟨exponent, rfl, hnone''⟩ := readExponent_sound hexponent
    cases hread
    refine ⟨⟨negative, whole, hzero, fraction, exponent⟩, ?_, hnone'' (hnone' hnone)⟩
    rw [hcs, NumberToken.chars]
    simp only [List.append_assoc]
  unfold readNumber at h
  split at h
  next negative cs' hsign =>
  split at hsign
  · cases hsign
    exact sound true _ rfl h
  · cases hsign
    exact sound false cs rfl h

/-! ## Words and strings -/

theorem readWord_sound {word : List Char} (h : readWord word cs = .ok rest) :
    cs = word ++ rest := by
  induction word generalizing cs with
  | nil => cases h; rfl
  | cons w word ih =>
    cases cs with
    | nil => cases h
    | cons c cs =>
      rw [readWord] at h
      split at h
      · next hc => rw [hc, ih h, List.cons_append]
      · cases h

@[simp] theorem rest_flawIf (high : Option Nat) (cs : List Char) (t : StringText) :
    (flawIf high cs t).rest = t.rest := by
  unfold flawIf
  split <;> rfl

theorem hexDigits_of_hexQuad? {a b c d : Char} {n : Nat} (h : hexQuad? a b c d = some n) :
    ∀ x ∈ [a, b, c, d], Text.Numeral.isHexDigit x = true := by
  simp only [hexQuad?, Option.bind_eq_bind, Option.bind_eq_some_iff] at h
  obtain ⟨na, ha, nb, hb, nc, hc, nd, hd, -⟩ := h
  intro x hx
  simp only [List.mem_cons, List.not_mem_nil, or_false] at hx
  rcases hx with rfl | rfl | rfl | rfl
  · exact Option.isSome_iff_exists.mpr ⟨na, ha⟩
  · exact Option.isSome_iff_exists.mpr ⟨nb, hb⟩
  · exact Option.isSome_iff_exists.mpr ⟨nc, hc⟩
  · exact Option.isSome_iff_exists.mpr ⟨nd, hd⟩

theorem mem_of_unescape? {c e : Char} (h : unescape? c = some e) :
    c ∈ ['"', '\\', '/', 'b', 'f', 'n', 'r', 't'] := by
  simp only [unescape?, Bool.or_eq_true, decide_eq_true_eq] at h
  simp only [List.mem_cons, List.not_mem_nil, or_false]
  grind

/-- What stands in a text up to the quote that closes a string is made of parts of strings. -/
def Closes (rest cs : List Char) : Prop :=
  ∃ parts : List StringPart, cs = parts.flatMap StringPart.chars ++ '"' :: rest

theorem Closes.cons (part : StringPart) (h : Closes rest cs) : Closes rest (part.chars ++ cs) := by
  obtain ⟨parts, rfl⟩ := h
  exact ⟨part :: parts, by rw [List.flatMap_cons, List.append_assoc]⟩

/-- A reader of a string leaves it only at the quote that closes it. -/
theorem closes_of_readString {high : Option Nat}
    (h : (readString .characters high cs).rest = .ok rest) : Closes rest cs := by
  have unicode {a b c d : Char} {n : Nat} {cs : List Char} (hn : hexQuad? a b c d = some n)
      (hcs : Closes rest cs) : Closes rest ('\\' :: 'u' :: a :: b :: c :: d :: cs) :=
    hcs.cons (.unicode a b c d (hexDigits_of_hexQuad? hn))
  fun_induction readString Units.characters high cs with
  | case1 | case3 | case4 | case10 | case11 => cases h
  | case2 high cs =>
    rw [rest_flawIf] at h
    cases h
    exact ⟨[], rfl⟩
  | case5 _ _ _ _ _ _ hn _ _ ih | case6 _ _ _ _ _ _ hn _ _ ih | case7 _ _ _ _ _ _ hn _ ih
  | case8 _ _ _ _ _ _ hn _ _ ih | case9 _ _ _ _ _ _ hn _ _ ih => exact unicode hn (ih h)
  | case12 | case14 => rw [rest_flawIf] at h; cases h
  | case13 high c cs _ _ e he ih =>
    rw [rest_flawIf] at h
    exact (ih h).cons (.short c (mem_of_unescape? he))
  | case15 high c cs hquote hend _ _ hslash hcontrol ih =>
    rw [rest_flawIf] at h
    refine (ih h).cons (.plain c ⟨Nat.not_lt.mp hcontrol, hquote, fun hc => ?_⟩)
    cases cs with
    | nil => exact hend hc rfl
    | cons c' cs => exact hslash c' cs hc rfl

/-- A string that has no end has no text. -/
theorem exists_text_error {t : StringText} {f : Fault} (h : t.rest = .error f) :
    ∃ g, t.text .characters = .error g := by
  unfold StringText.text
  rw [h]
  cases t.flaw with
  | none => exact ⟨f, rfl⟩
  | some g => exact ⟨g, rfl⟩

/-! ## Spelling -/

theorem spells_skipGap (ts : List Token) (cs : List Char) :
    Spells ts (skipGap cs) ↔ Spells ts cs := by
  cases ts <;> rw [Spells, Spells, skipGap_skipGap]

theorem Spells.cons_mark (h : Spells ts rest) (hcs : skipGap cs = m.char :: rest) :
    Spells (.mark m :: ts) cs := ⟨rest, hcs, trivial, h⟩

/-- No token begins with a character that only goes on with a number. -/
theorem Spells.numberEnd (h : Spells ts rest) (hrest : NoDigit rest) : NumberEnd rest := by
  intro c cs hcs
  subst hcs
  have hgap : isGap c = true → c ≠ '.' ∧ c ≠ 'e' ∧ c ≠ 'E' := by
    intro hc
    refine ⟨?_, ?_, ?_⟩ <;> (rintro rfl; cases hc)
  refine ⟨hrest c cs rfl, ?_⟩
  cases hc : isGap c with
  | true => exact hgap hc
  | false =>
    cases ts with
    | nil => rw [Spells, skipGap_of_head hc] at h; cases h
    | cons t ts =>
      obtain ⟨behind, hcs, -⟩ := h
      rw [skipGap_of_head hc] at hcs
      cases t with
      | mark m =>
        obtain ⟨rfl, -⟩ := List.cons.inj hcs
        cases m <;> decide
      | null => obtain ⟨rfl, -⟩ := List.cons.inj hcs; decide
      | bool b => cases b <;> (obtain ⟨rfl, -⟩ := List.cons.inj hcs; decide)
      | string parts => obtain ⟨rfl, -⟩ := List.cons.inj hcs; decide
      | number n =>
        obtain ⟨c', tail, htail, hc'⟩ := n.exists_cons
        rw [Token.chars, htail] at hcs
        obtain ⟨rfl, -⟩ := List.cons.inj hcs
        rcases hc' with rfl | hc'
        · decide
        · refine ⟨?_, ?_, ?_⟩ <;> (rintro rfl; cases hc')

/-- What a reader makes of a text: something that has no value, or the rest behind what has the
property that is asked for. -/
def Passes {α : Type} (Bad : α → Prop) (r : α × Option (List Char)) (P : List Char → Prop) : Prop :=
  Bad r.1 ∨ ∃ rest, r.2 = some rest ∧ P rest

/-- A text up to a rest is a document. -/
def SpellsValue (cs rest : List Char) : Prop :=
  ∃ v : Document, ∀ ts, Spells ts rest → Spells (v.tokens ++ ts) cs

/-- A text up to a rest is one or more items of an array and its end. -/
def SpellsItems (cs rest : List Char) : Prop :=
  ∃ v vs, ∀ ts, Spells ts rest → Spells (itemTokens (v :: vs) ++ .mark .closeArray :: ts) cs

/-- A text up to a rest is one or more members of an object and its end. -/
def SpellsMembers (cs rest : List Char) : Prop :=
  ∃ m ms, ∀ ts, Spells ts rest → Spells (memberTokens (m :: ms) ++ .mark .closeObject :: ts) cs

/-- A word is a token that nothing goes on with. -/
theorem passes_ofWord {word : List Char} {c : Char} {d : Draft} {t : Token} (v : Document)
    (hv : v.tokens = [t]) (ht : t.chars = c :: word) (hend : ∀ rest, t.Ends rest)
    (hcs : skipGap (c :: cs) = c :: cs) :
    Passes Draft.Worthless (Draft.ofWord word d cs) (SpellsValue (c :: cs)) := by
  unfold Draft.ofWord
  split
  · exact .inl ⟨_, rfl⟩
  · next rest hread =>
    refine .inr ⟨rest, rfl, v, fun ts hts => ?_⟩
    rw [hv]
    exact ⟨rest, by rw [hcs, ht, readWord_sound hread, List.cons_append], hend rest, hts⟩

theorem passes_ofScalar (cs : List Char) (hcs : skipGap cs = cs) :
    Passes Draft.Worthless (ofScalar .characters cs) (SpellsValue cs) := by
  unfold ofScalar
  split
  · exact .inl ⟨_, rfl⟩
  · next cs =>
    unfold Draft.ofString
    cases hrest : (readString .characters none cs).rest with
    | error f =>
      obtain ⟨g, hg⟩ := exists_text_error hrest
      dsimp only
      rw [hg, hrest]
      exact .inl ⟨_, rfl⟩
    | ok rest =>
      obtain ⟨parts, hparts⟩ := closes_of_readString hrest
      refine .inr ⟨rest, congrArg Except.toOption hrest, .string parts, fun ts hts =>
        ⟨rest, ?_, trivial, hts⟩⟩
      rw [hcs, Token.chars_string_append, hparts]
  · exact passes_ofWord .null rfl rfl (fun _ => trivial) hcs
  · exact passes_ofWord (.bool true) rfl rfl (fun _ => trivial) hcs
  · exact passes_ofWord (.bool false) rfl rfl (fun _ => trivial) hcs
  · next c cs _ _ _ _ =>
    split
    · unfold Draft.ofNumber
      split
      · exact .inl ⟨_, rfl⟩
      · next t rest hread =>
        obtain ⟨n, hn, hrest⟩ := readNumber_sound hread
        have hpass : SpellsValue (c :: cs) rest :=
          ⟨.number n, fun ts hts => ⟨rest, by rw [hcs, hn]; rfl, hts.numberEnd hrest, hts⟩⟩
        split <;> exact .inr ⟨rest, rfl, hpass⟩
    · exact .inl ⟨_, rfl⟩

/-! ## Readers -/

mutual

theorem passes_readValue : (fuel d : Nat) → (cs : List Char) →
    Passes Draft.Worthless (readValue .characters fuel d cs) (SpellsValue cs)
  | 0, _, _ => by rw [readValue]; exact .inl ⟨_, rfl⟩
  | fuel + 1, d, cs => by
    rw [readValue]
    split
    · next rest hcs =>
      cases d with
      | zero => exact .inl (ofDeep_worthless ..)
      | succ d =>
        rcases passes_readItems fuel d rest with hbad | ⟨behind, hread, items, hitems⟩
        · exact .inl (BadItems.array hbad)
        · refine .inr ⟨behind, hread, .array items, fun ts hts => ?_⟩
          rw [Document.tokens, List.cons_append, List.append_assoc]
          exact (hitems ts hts).cons_mark (m := .openArray) hcs
    · next rest hcs =>
      cases d with
      | zero => exact .inl (ofDeep_worthless ..)
      | succ d =>
        rcases passes_readMembers fuel d rest with hbad | ⟨behind, hread, members, hmembers⟩
        · exact .inl (BadMembers.object hbad)
        · refine .inr ⟨behind, hread, .object members, fun ts hts => ?_⟩
          rw [Document.tokens, List.cons_append, List.append_assoc]
          exact (hmembers ts hts).cons_mark (m := .openObject) hcs
    · next hcs =>
      rcases passes_ofScalar (skipGap cs) (skipGap_skipGap cs) with
        hbad | ⟨behind, hread, v, hv⟩
      · exact .inl hbad
      · exact .inr ⟨behind, hread, v, fun ts hts => (spells_skipGap _ _).mp (hv ts hts)⟩

theorem passes_readItems : (fuel d : Nat) → (cs : List Char) →
    Passes BadItems (readItems .characters fuel d cs) fun rest =>
      ∃ vs, ∀ ts, Spells ts rest → Spells (itemTokens vs ++ .mark .closeArray :: ts) cs
  | 0, _, _ => by rw [readItems]; exact .inl ⟨_, rfl⟩
  | fuel + 1, d, cs => by
    rw [readItems]
    split
    · next rest hcs =>
      exact .inr ⟨rest, rfl, [], fun ts hts => hts.cons_mark (m := .closeArray) hcs⟩
    · rcases passes_readItem fuel d (skipGap cs) with hbad | ⟨behind, hread, v, vs, hvs⟩
      · exact .inl hbad
      · exact .inr ⟨behind, hread, v :: vs, fun ts hts => (spells_skipGap _ _).mp (hvs ts hts)⟩

theorem passes_readItem : (fuel d : Nat) → (cs : List Char) →
    Passes BadItems (readItem .characters fuel d cs) (SpellsItems cs)
  | 0, _, _ => by rw [readItem]; exact .inl ⟨_, rfl⟩
  | fuel + 1, d, cs => by
    have hvalue := passes_readValue fuel d cs
    rw [readItem]
    split
    · next hread =>
      rw [hread] at hvalue
      rcases hvalue with hbad | ⟨rest, hrest, -⟩
      · exact .inl (hbad.values_cons [])
      · cases hrest
    · next item rest hread =>
      rw [hread] at hvalue
      rcases hvalue with hbad | ⟨_, hrest, v, hv⟩
      · exact .inl (hbad.values_cons _)
      cases hrest
      rcases passes_readMoreItems fuel d rest with hbad | ⟨behind, hmore, hend | ⟨w, vs, hvs⟩⟩
      · exact .inl (hbad.cons item)
      · exact .inr ⟨behind, hmore, v, [], fun ts hts => hv _ (hend ts hts)⟩
      · refine .inr ⟨behind, hmore, v, w :: vs, fun ts hts => ?_⟩
        rw [itemTokens, List.append_assoc]
        · exact hv _ (hvs ts hts)
        · nofun

theorem passes_readMoreItems : (fuel d : Nat) → (cs : List Char) →
    Passes BadItems (readMoreItems .characters fuel d cs) fun rest =>
      (∀ ts, Spells ts rest → Spells (.mark .closeArray :: ts) cs) ∨
        ∃ v vs, ∀ ts, Spells ts rest →
          Spells (.mark .comma :: itemTokens (v :: vs) ++ .mark .closeArray :: ts) cs
  | 0, _, _ => by rw [readMoreItems]; exact .inl ⟨_, rfl⟩
  | fuel + 1, d, cs => by
    rw [readMoreItems]
    split
    · next rest hcs =>
      exact .inr ⟨rest, rfl, .inl fun ts hts => hts.cons_mark (m := .closeArray) hcs⟩
    · next rest hcs =>
      rcases passes_readItem fuel d rest with hbad | ⟨behind, hread, v, vs, hvs⟩
      · exact .inl hbad
      · exact .inr ⟨behind, hread, .inr ⟨v, vs, fun ts hts =>
          (hvs ts hts).cons_mark (m := .comma) hcs⟩⟩
    · exact .inl ⟨_, rfl⟩
    · exact .inl ⟨_, rfl⟩

theorem passes_readMembers : (fuel d : Nat) → (cs : List Char) →
    Passes BadMembers (readMembers .characters fuel d cs) fun rest =>
      ∃ ms, ∀ ts, Spells ts rest → Spells (memberTokens ms ++ .mark .closeObject :: ts) cs
  | 0, _, _ => by rw [readMembers]; exact .inl (badMembers_key _ _ _)
  | fuel + 1, d, cs => by
    rw [readMembers]
    split
    · next rest hcs =>
      exact .inr ⟨rest, rfl, [], fun ts hts => hts.cons_mark (m := .closeObject) hcs⟩
    · rcases passes_readMember fuel d (skipGap cs) with hbad | ⟨behind, hread, m, ms, hms⟩
      · exact .inl hbad
      · exact .inr ⟨behind, hread, m :: ms, fun ts hts => (spells_skipGap _ _).mp (hms ts hts)⟩

theorem passes_readMember : (fuel d : Nat) → (cs : List Char) →
    Passes BadMembers (readMember .characters fuel d cs) (SpellsMembers cs)
  | 0, _, _ => by rw [readMember]; exact .inl (badMembers_key _ _ _)
  | fuel + 1, d, cs => by
    rw [readMember]
    split
    · next rest hcs =>
      dsimp only
      cases hstring : (readString .characters none rest).rest with
      | error f => exact .inl (badMembers_worthless ⟨_, rfl⟩ _ _)
      | ok behind =>
        obtain ⟨key, hkey⟩ := closes_of_readString hstring
        dsimp only
        split
        · next value hcolon =>
          have hvalue := passes_readValue fuel d value
          have before {ts : List Token} (hts : Spells ts value) :
              Spells (.string key :: .mark .colon :: ts) cs :=
            ⟨behind, by rw [hcs, Token.chars_string_append, hkey], trivial,
              hts.cons_mark (m := .colon) hcolon⟩
          split
          · next hread =>
            rw [hread] at hvalue
            rcases hvalue with hbad | ⟨_, hrest, -⟩
            · exact .inl (badMembers_worthless hbad _ _)
            · cases hrest
          · next item rest hread =>
            rw [hread] at hvalue
            rcases hvalue with hbad | ⟨_, hrest, v, hv⟩
            · exact .inl (badMembers_worthless hbad _ _)
            cases hrest
            rcases passes_readMoreMembers fuel d rest with
              hbad | ⟨behind, hmore, hend | ⟨m, ms, hms⟩⟩
            · exact .inl (hbad.cons _)
            · exact .inr ⟨behind, hmore, (key, v), [], fun ts hts => before (hv _ (hend ts hts))⟩
            · refine .inr ⟨behind, hmore, (key, v), m :: ms, fun ts hts => ?_⟩
              rw [memberTokens, List.cons_append, List.cons_append, List.append_assoc]
              · exact before (hv _ (hms ts hts))
              · nofun
        · exact .inl (badMembers_worthless ⟨_, rfl⟩ _ _)
        · exact .inl (badMembers_worthless ⟨_, rfl⟩ _ _)
    · exact .inl (badMembers_key _ _ _)
    · exact .inl (badMembers_key _ _ _)

theorem passes_readMoreMembers : (fuel d : Nat) → (cs : List Char) →
    Passes BadMembers (readMoreMembers .characters fuel d cs) fun rest =>
      (∀ ts, Spells ts rest → Spells (.mark .closeObject :: ts) cs) ∨
        ∃ m ms, ∀ ts, Spells ts rest →
          Spells (.mark .comma :: memberTokens (m :: ms) ++ .mark .closeObject :: ts) cs
  | 0, _, _ => by rw [readMoreMembers]; exact .inl (badMembers_key _ _ _)
  | fuel + 1, d, cs => by
    rw [readMoreMembers]
    split
    · next rest hcs =>
      exact .inr ⟨rest, rfl, .inl fun ts hts => hts.cons_mark (m := .closeObject) hcs⟩
    · next rest hcs =>
      rcases passes_readMember fuel d rest with hbad | ⟨behind, hread, m, ms, hms⟩
      · exact .inl hbad
      · exact .inr ⟨behind, hread, .inr ⟨m, ms, fun ts hts =>
          (hms ts hts).cons_mark (m := .comma) hcs⟩⟩
    · exact .inl (badMembers_key _ _ _)
    · exact .inl (badMembers_key _ _ _)

end

/-- A text that has a value spells the tokens of a document. -/
theorem exists_document_of_ofChars {v : Json} (h : ofChars cs = .ok v) :
    ∃ d : Document, Spells d.tokens cs := by
  have hread := passes_readValue (3 * cs.length + 3) Draft.maxDepth cs
  rcases hread with ⟨f, hf⟩ | ⟨rest, hrest, d, hd⟩
  · obtain ⟨f', hf'⟩ := ofChars_of_worthless ⟨f, hf⟩
    rw [hf'] at h
    cases h
  · have hvalue : readValue .characters (3 * cs.length + 3) Draft.maxDepth cs =
        ((readValue .characters (3 * cs.length + 3) Draft.maxDepth cs).1, some rest) := by
      rw [← hrest]
    have hend := toOption_ofChars hvalue
    rw [h] at hend
    split at hend
    · next hgap =>
      refine ⟨d, ?_⟩
      rw [← List.append_nil d.tokens]
      exact hd [] hgap
    · cases hend

end AnalyzerClient.Json
