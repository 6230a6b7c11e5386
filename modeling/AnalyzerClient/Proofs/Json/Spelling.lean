import AnalyzerClient.Proofs.Json.Token

/-!
# Texts that spell the same tokens

A text spells tokens when these stand in it one behind the other with any gaps around them
(`Spells`). What is read of a text follows from the tokens: two texts that spell the same tokens
have the same value, or both have none (`ofChars_of_spells`). The readers are run on both texts side
by side, until something is read that has no value.
-/

namespace AnalyzerClient.Json

open Draft (ofScalar readValue readItems readItem readMoreItems readMembers readMember
  readMoreMembers)

variable {ts : List Token} {t : Token} {m : Mark} {c : Char} {cs cs' rest gap : List Char}
variable {behind : List Char} {fuel fuel' d n : Nat}

/-! ## Spelling -/

/-- A text is made of these tokens and the gaps between them. -/
def Spells : List Token → List Char → Prop
  | [], cs => skipGap cs = []
  | t :: ts, cs => ∃ rest, skipGap cs = t.chars ++ rest ∧ t.Ends rest ∧ Spells ts rest

theorem Spells.length_le (h : Spells ts cs) : ts.length ≤ cs.length := by
  induction ts generalizing cs with
  | nil => exact Nat.zero_le _
  | cons t ts ih =>
    obtain ⟨rest, hcs, -, hrest⟩ := h
    obtain ⟨c, tail, htail, -⟩ := t.exists_cons
    have hskip : (skipGap cs).length ≤ cs.length := (List.dropWhile_sublist _).length_le
    have hlength := ih hrest
    rw [hcs, htail] at hskip
    simp only [List.length_append, List.length_cons] at hskip ⊢
    omega

theorem Spells.eq_nil (h : Spells [] cs) : skipGap cs = [] := h

theorem Spells.ne_nil (h : Spells (t :: ts) cs) : skipGap cs ≠ [] := by
  obtain ⟨rest, hcs, -⟩ := h
  obtain ⟨c, tail, htail, -⟩ := t.exists_cons
  rw [hcs, htail]
  exact List.cons_ne_nil _ _

/-- The next character is that of a mark only if the mark is the next token. -/
theorem Spells.ne_mark (h : Spells ts cs) (m : Mark) (hm : ts.head? ≠ some (.mark m))
    (rest : List Char) : skipGap cs ≠ m.char :: rest := by
  intro hrest
  cases ts with
  | nil => rw [h.eq_nil] at hrest; cases hrest
  | cons t ts =>
    obtain ⟨rest', hcs, -⟩ := h
    obtain ⟨c, tail, htail, -, hmark⟩ := t.exists_cons
    rw [hcs, htail] at hrest
    exact hm (congrArg some (hmark m (List.cons.inj hrest).1))

/-- The next character is a quote only if the next token is a string. -/
theorem Spells.ne_quote (h : Spells ts cs) (hstring : ¬ ∃ parts ts', ts = .string parts :: ts')
    (rest : List Char) : skipGap cs ≠ '"' :: rest := by
  intro hrest
  cases ts with
  | nil => rw [h.eq_nil] at hrest; cases hrest
  | cons t ts =>
    obtain ⟨rest', hcs, -⟩ := h
    obtain ⟨c, tail, htail, -⟩ := t.exists_cons
    rw [hcs, htail] at hrest
    rw [(List.cons.inj hrest).1] at htail
    obtain ⟨parts, rfl⟩ := Token.exists_string htail
    exact hstring ⟨parts, ts, rfl⟩

theorem Spells.mark (h : Spells ts cs) (hm : ts.head? = some (.mark m)) :
    ∃ ts' rest, ts = .mark m :: ts' ∧ skipGap cs = m.char :: rest ∧ Spells ts' rest := by
  cases ts with
  | nil => cases hm
  | cons t ts =>
    cases hm
    obtain ⟨rest, hcs, -, hrest⟩ := h
    exact ⟨ts, rest, rfl, hcs, hrest⟩

/-- Two texts that spell the same tokens have the same mark in front. -/
theorem Spells.mark₂ (h : Spells ts cs) (h' : Spells ts cs') (hm : ts.head? = some (.mark m)) :
    ∃ ts' rest rest', ts.length = ts'.length + 1 ∧ skipGap cs = m.char :: rest ∧
      skipGap cs' = m.char :: rest' ∧ Spells ts' rest ∧ Spells ts' rest' := by
  obtain ⟨ts', rest, rfl, hcs, hrest⟩ := h.mark hm
  obtain ⟨_, rest', hts, hcs', hrest'⟩ := h'.mark hm
  obtain ⟨-, rfl⟩ := List.cons.inj hts
  exact ⟨ts', rest, rest', rfl, hcs, hcs', hrest, hrest'⟩

/-! ## Drafts without a value -/

/-- Items of which one has no value. -/
def BadItems (ds : List Draft) : Prop := ∃ f, Draft.values ds = .error f

/-- Members of which one has no value. -/
def BadMembers (ms : List (Except Fault String × Draft)) : Prop :=
  ∀ before, ∃ f, Draft.memberValues ms before = .error f

theorem BadItems.array {ds : List Draft} (h : BadItems ds) : (Draft.array ds).Worthless := by
  obtain ⟨f, hf⟩ := h
  exact ⟨f, by rw [Draft.value, hf]; rfl⟩

theorem BadItems.cons {ds : List Draft} (h : BadItems ds) (d : Draft) : BadItems (d :: ds) := by
  obtain ⟨f, hf⟩ := h
  rw [BadItems, Draft.values, hf]
  cases d.value with
  | error e => exact ⟨e, rfl⟩
  | ok v => exact ⟨f, rfl⟩

theorem BadMembers.object {ms : List (Except Fault String × Draft)} (h : BadMembers ms) :
    (Draft.object ms).Worthless := by
  obtain ⟨f, hf⟩ := h []
  exact ⟨f, by rw [Draft.value, hf]; rfl⟩

theorem BadMembers.cons {ms : List (Except Fault String × Draft)} (h : BadMembers ms)
    (m : Except Fault String × Draft) : BadMembers (m :: ms) := by
  intro before
  obtain ⟨key, d⟩ := m
  rw [Draft.memberValues]
  cases key with
  | error e => exact ⟨e, rfl⟩
  | ok k =>
    cases d.value with
    | error e => exact ⟨e, rfl⟩
    | ok v => exact h _

theorem badMembers_key (f : Fault) (d : Draft) (ms : List (Except Fault String × Draft)) :
    BadMembers ((.error f, d) :: ms) := fun _ => ⟨f, rfl⟩

theorem badMembers_worthless {d : Draft} (h : d.Worthless) (key : Except Fault String)
    (ms : List (Except Fault String × Draft)) : BadMembers ((key, d) :: ms) := by
  cases key with
  | error f => exact badMembers_key f d ms
  | ok k => exact h.memberValues_cons k ms

/-! ## Reading side by side -/

/-- Two readers read the same, and at most so many tokens are left behind it; or neither reads
anything of value. -/
def Alike {α : Type} (Bad : α → Prop) (n : Nat) (r r' : α × Option (List Char)) : Prop :=
  (Bad r.1 ∧ Bad r'.1) ∨ ∃ a ts rest rest', r = (a, some rest) ∧ r' = (a, some rest') ∧
    ts.length ≤ n ∧ Spells ts rest ∧ Spells ts rest'

namespace Alike

variable {α β : Type} {Bad : α → Prop} {Bad' : β → Prop} {r r' : α × Option (List Char)}

theorem bad (h : Bad r.1) (h' : Bad r'.1) : Alike Bad n r r' := .inl ⟨h, h'⟩

theorem same {a : α} {rest rest' : List Char} (hts : ts.length ≤ n) (h : Spells ts rest)
    (h' : Spells ts rest') : Alike Bad n (a, some rest) (a, some rest') :=
  .inr ⟨a, ts, rest, rest', rfl, rfl, hts, h, h'⟩

theorem map (h : Alike Bad n r r') {n' : Nat} (hn : n ≤ n') {f : α → β}
    (hf : ∀ a, Bad a → Bad' (f a)) : Alike Bad' n' (f r.1, r.2) (f r'.1, r'.2) := by
  rcases h with ⟨h, h'⟩ | ⟨a, ts, rest, rest', rfl, rfl, hts, h, h'⟩
  · exact bad (hf _ h) (hf _ h')
  · exact same (Nat.le_trans hts hn) h h'

theorem mono (h : Alike Bad n r r') {n' : Nat} (hn : n ≤ n') : Alike Bad n' r r' :=
  h.map hn fun _ => id

end Alike

/-! ## One reader at a time -/

theorem readItems_of_ne (h : ∀ rest, skipGap cs ≠ ']' :: rest) :
    readItems .characters (fuel + 1) d cs = readItem .characters fuel d cs := by
  rw [readItems, ← readItem_skipGap .characters fuel d cs]
  split
  · next hcs => exact absurd hcs (h _)
  · rfl

theorem readMembers_of_ne (h : ∀ rest, skipGap cs ≠ '}' :: rest) :
    readMembers .characters (fuel + 1) d cs = readMember .characters fuel d cs := by
  rw [readMembers, ← readMember_skipGap .characters fuel d cs]
  split
  · next hcs => exact absurd hcs (h _)
  · rfl

theorem badItems_readMoreItems (hclose : ∀ rest, skipGap cs ≠ ']' :: rest)
    (hcomma : ∀ rest, skipGap cs ≠ ',' :: rest) :
    BadItems (readMoreItems .characters (fuel + 1) d cs).1 := by
  rw [readMoreItems]
  split
  · next hcs => exact absurd hcs (hclose _)
  · next hcs => exact absurd hcs (hcomma _)
  · exact ⟨_, rfl⟩
  · exact ⟨_, rfl⟩

theorem badMembers_readMoreMembers (hclose : ∀ rest, skipGap cs ≠ '}' :: rest)
    (hcomma : ∀ rest, skipGap cs ≠ ',' :: rest) :
    BadMembers (readMoreMembers .characters (fuel + 1) d cs).1 := by
  rw [readMoreMembers]
  split
  · next hcs => exact absurd hcs (hclose _)
  · next hcs => exact absurd hcs (hcomma _)
  · exact badMembers_key _ _ _
  · exact badMembers_key _ _ _

/-- A value that is no array and no object. -/
theorem alike_readValue_scalar (ht : t.isMark = false) (h : Spells (t :: ts) cs)
    (h' : Spells (t :: ts) cs') :
    Alike Draft.Worthless ts.length (readValue .characters (fuel + 1) d cs)
      (readValue .characters (fuel' + 1) d cs') := by
  have hread {fuel : Nat} {cs rest : List Char} (hcs : skipGap cs = t.chars ++ rest) :
      readValue .characters (fuel + 1) d cs = ofScalar .characters (t.chars ++ rest) := by
    obtain ⟨c, tail, htail, -, hmark⟩ := t.exists_cons
    have hc (m : Mark) : c ≠ m.char := by
      intro hc
      rw [hmark m hc] at ht
      cases ht
    rw [htail] at hcs ⊢
    exact readValue_of_scalar hcs (hc .openArray) (hc .openObject)
  obtain ⟨rest, hcs, hend, hrest⟩ := h
  obtain ⟨rest', hcs', hend', hrest'⟩ := h'
  rw [hread hcs, hread hcs']
  rcases t.steady_ofScalar ht with ⟨v, hsame⟩ | hbad
  · rw [hsame rest hend, hsame rest' hend']
    exact .same (Nat.le_refl _) hrest hrest'
  · exact .bad (hbad rest hend) (hbad rest' hend')

/-- What no value begins with. -/
theorem worthless_readValue (h : Spells ts cs) (hmark : ∀ t ∈ ts.head?, t.isMark = true)
    (harray : ts.head? ≠ some (.mark .openArray)) (hobject : ts.head? ≠ some (.mark .openObject)) :
    (readValue .characters (fuel + 1) d cs).1.Worthless := by
  cases ts with
  | nil => rw [readValue, h.eq_nil]; exact ⟨_, rfl⟩
  | cons t ts =>
    cases t with
    | mark m =>
      obtain ⟨_, rest, -, hcs, -⟩ := h.mark rfl
      cases m with
      | openArray => exact absurd rfl harray
      | openObject => exact absurd rfl hobject
      | _ => rw [readValue, hcs]; exact ⟨_, rfl⟩
    | _ => cases hmark _ rfl

/-- A member begins with its key. -/
theorem badMembers_readMember (h : ∀ rest, skipGap cs ≠ '"' :: rest) :
    BadMembers (readMember .characters (fuel + 1) d cs).1 := by
  rw [readMember]
  split
  · next hcs => exact absurd hcs (h _)
  · exact badMembers_key _ _ _
  · exact badMembers_key _ _ _

section Member

variable {key : Except Fault String} (hkey : skipGap cs = '"' :: rest)
  (hrest : (readString .characters none rest).rest = .ok behind)
  (htext : (readString .characters none rest).text .characters = key)

include hkey hrest htext

theorem readMember_colon (hcolon : skipGap behind = ':' :: cs') :
    readMember .characters (fuel + 1) d cs = match readValue .characters fuel d cs' with
      | (v, none) => ([(key, v)], none)
      | (v, some rest) => ((key, v) :: (readMoreMembers .characters fuel d rest).1,
          (readMoreMembers .characters fuel d rest).2) := by
  rw [readMember, hkey]
  rcases hvalue : readValue .characters fuel d cs' with ⟨v, _ | more⟩
  · simp only [hrest, htext, hcolon, hvalue]
  · simp only [hrest, htext, hcolon, hvalue]

theorem badMembers_of_ne_colon (hcolon : ∀ cs', skipGap behind ≠ ':' :: cs') :
    BadMembers (readMember .characters (fuel + 1) d cs).1 := by
  rw [readMember, hkey]
  simp only [hrest, htext]
  split
  · next hcs => exact absurd hcs (hcolon _)
  · exact badMembers_worthless ⟨_, rfl⟩ _ _
  · exact badMembers_worthless ⟨_, rfl⟩ _ _

omit htext in
theorem badMembers_of_key {f : Fault}
    (htext : (readString .characters none rest).text .characters = .error f) :
    BadMembers (readMember .characters (fuel + 1) d cs).1 := by
  rw [readMember, hkey]
  simp only [hrest, htext]
  split
  · split <;> exact badMembers_key _ _ _
  · exact badMembers_key _ _ _
  · exact badMembers_key _ _ _

end Member

/-! ## All readers -/

mutual

theorem alike_readValue : (fuel fuel' d : Nat) → {ts : List Token} → {cs cs' : List Char} →
    3 * ts.length + 1 ≤ fuel → 3 * ts.length + 1 ≤ fuel' → Spells ts cs → Spells ts cs' →
      Alike Draft.Worthless (ts.length - 1) (readValue .characters fuel d cs)
        (readValue .characters fuel' d cs')
  | 0, _, _, _, _, _, hfuel, _, _, _ | _, 0, _, _, _, _, _, hfuel, _, _ => by omega
  | fuel + 1, fuel' + 1, d, ts, cs, cs', hfuel, hfuel', h, h' => by
    by_cases harray : ts.head? = some (.mark .openArray)
    · obtain ⟨ts', rest, rest', hlength, hcs, hcs', hrest, hrest'⟩ := h.mark₂ h' harray
      rw [readValue, readValue, hcs, hcs']
      cases d with
      | zero => exact .bad (ofDeep_worthless ..) (ofDeep_worthless ..)
      | succ d =>
        exact (alike_readItems fuel fuel' d (by omega) (by omega) hrest hrest').map (by omega)
          fun _ => BadItems.array
    by_cases hobject : ts.head? = some (.mark .openObject)
    · obtain ⟨ts', rest, rest', hlength, hcs, hcs', hrest, hrest'⟩ := h.mark₂ h' hobject
      rw [readValue, readValue, hcs, hcs']
      cases d with
      | zero => exact .bad (ofDeep_worthless ..) (ofDeep_worthless ..)
      | succ d =>
        exact (alike_readMembers fuel fuel' d (by omega) (by omega) hrest hrest').map (by omega)
          fun _ => BadMembers.object
    by_cases hmark : ∀ t ∈ ts.head?, t.isMark = true
    · exact .bad (worthless_readValue h hmark harray hobject)
        (worthless_readValue h' hmark harray hobject)
    · cases ts with
      | nil => exact absurd nofun hmark
      | cons t ts =>
        have ht : t.isMark = false := by simpa using hmark
        exact alike_readValue_scalar ht h h'

theorem alike_readItems : (fuel fuel' d : Nat) → {ts : List Token} → {cs cs' : List Char} →
    3 * ts.length + 3 ≤ fuel → 3 * ts.length + 3 ≤ fuel' → Spells ts cs → Spells ts cs' →
      Alike BadItems (ts.length - 1) (readItems .characters fuel d cs)
        (readItems .characters fuel' d cs')
  | 0, _, _, _, _, _, hfuel, _, _, _ | _, 0, _, _, _, _, _, hfuel, _, _ => by omega
  | fuel + 1, fuel' + 1, d, ts, cs, cs', hfuel, hfuel', h, h' => by
    by_cases hclose : ts.head? = some (.mark .closeArray)
    · obtain ⟨ts', rest, rest', hlength, hcs, hcs', hrest, hrest'⟩ := h.mark₂ h' hclose
      rw [readItems, readItems, hcs, hcs']
      exact .same (by omega) hrest hrest'
    · rw [readItems_of_ne (h.ne_mark .closeArray hclose),
        readItems_of_ne (h'.ne_mark .closeArray hclose)]
      exact alike_readItem fuel fuel' d (by omega) (by omega) h h'

theorem alike_readItem : (fuel fuel' d : Nat) → {ts : List Token} → {cs cs' : List Char} →
    3 * ts.length + 2 ≤ fuel → 3 * ts.length + 2 ≤ fuel' → Spells ts cs → Spells ts cs' →
      Alike BadItems (ts.length - 1) (readItem .characters fuel d cs)
        (readItem .characters fuel' d cs')
  | 0, _, _, _, _, _, hfuel, _, _, _ | _, 0, _, _, _, _, _, hfuel, _, _ => by omega
  | fuel + 1, fuel' + 1, d, ts, cs, cs', hfuel, hfuel', h, h' => by
    rcases alike_readValue fuel fuel' d (by omega) (by omega) h h' with
      ⟨hbad, hbad'⟩ | ⟨v, ts', rest, rest', hread, hread', hts, hrest, hrest'⟩
    · exact .bad (values_readItem_of_worthless hbad) (values_readItem_of_worthless hbad')
    · rw [readItem, readItem, hread, hread']
      exact (alike_readMoreItems fuel fuel' d (by omega) (by omega) hrest hrest').map (by omega)
        fun _ hds => hds.cons v

theorem alike_readMoreItems : (fuel fuel' d : Nat) → {ts : List Token} → {cs cs' : List Char} →
    3 * ts.length + 1 ≤ fuel → 3 * ts.length + 1 ≤ fuel' → Spells ts cs → Spells ts cs' →
      Alike BadItems (ts.length - 1) (readMoreItems .characters fuel d cs)
        (readMoreItems .characters fuel' d cs')
  | 0, _, _, _, _, _, hfuel, _, _, _ | _, 0, _, _, _, _, _, hfuel, _, _ => by omega
  | fuel + 1, fuel' + 1, d, ts, cs, cs', hfuel, hfuel', h, h' => by
    by_cases hclose : ts.head? = some (.mark .closeArray)
    · obtain ⟨ts', rest, rest', hlength, hcs, hcs', hrest, hrest'⟩ := h.mark₂ h' hclose
      rw [readMoreItems, readMoreItems, hcs, hcs']
      exact .same (by omega) hrest hrest'
    by_cases hcomma : ts.head? = some (.mark .comma)
    · obtain ⟨ts', rest, rest', hlength, hcs, hcs', hrest, hrest'⟩ := h.mark₂ h' hcomma
      rw [readMoreItems, readMoreItems, hcs, hcs']
      exact (alike_readItem fuel fuel' d (by omega) (by omega) hrest hrest').mono (by omega)
    · exact .bad
        (badItems_readMoreItems (h.ne_mark .closeArray hclose) (h.ne_mark .comma hcomma))
        (badItems_readMoreItems (h'.ne_mark .closeArray hclose) (h'.ne_mark .comma hcomma))

theorem alike_readMembers : (fuel fuel' d : Nat) → {ts : List Token} → {cs cs' : List Char} →
    3 * ts.length + 3 ≤ fuel → 3 * ts.length + 3 ≤ fuel' → Spells ts cs → Spells ts cs' →
      Alike BadMembers (ts.length - 1) (readMembers .characters fuel d cs)
        (readMembers .characters fuel' d cs')
  | 0, _, _, _, _, _, hfuel, _, _, _ | _, 0, _, _, _, _, _, hfuel, _, _ => by omega
  | fuel + 1, fuel' + 1, d, ts, cs, cs', hfuel, hfuel', h, h' => by
    by_cases hclose : ts.head? = some (.mark .closeObject)
    · obtain ⟨ts', rest, rest', hlength, hcs, hcs', hrest, hrest'⟩ := h.mark₂ h' hclose
      rw [readMembers, readMembers, hcs, hcs']
      exact .same (by omega) hrest hrest'
    · rw [readMembers_of_ne (h.ne_mark .closeObject hclose),
        readMembers_of_ne (h'.ne_mark .closeObject hclose)]
      exact alike_readMember fuel fuel' d (by omega) (by omega) h h'

theorem alike_readMember : (fuel fuel' d : Nat) → {ts : List Token} → {cs cs' : List Char} →
    3 * ts.length + 2 ≤ fuel → 3 * ts.length + 2 ≤ fuel' → Spells ts cs → Spells ts cs' →
      Alike BadMembers (ts.length - 1) (readMember .characters fuel d cs)
        (readMember .characters fuel' d cs')
  | 0, _, _, _, _, _, hfuel, _, _, _ | _, 0, _, _, _, _, _, hfuel, _, _ => by omega
  | fuel + 1, fuel' + 1, d, ts, cs, cs', hfuel, hfuel', h, h' => by
    by_cases hstring : ∃ parts ts', ts = .string parts :: ts'
    · obtain ⟨parts, ts, rfl⟩ := hstring
      obtain ⟨rest, hcs, -, hrest⟩ := h
      obtain ⟨rest', hcs', -, hrest'⟩ := h'
      rw [Token.chars_string_append] at hcs hcs'
      rw [List.length_cons] at hfuel hfuel'
      rcases (steady_readString parts none).text with ⟨k, hkey⟩ | hkey
      · obtain ⟨hread, htext⟩ := hkey rest
        obtain ⟨hread', htext'⟩ := hkey rest'
        by_cases hcolon : ts.head? = some (.mark .colon)
        · obtain ⟨ts', behind, behind', hlength, hcs₂, hcs₂', hbehind, hbehind'⟩ :=
            hrest.mark₂ hrest' hcolon
          rw [readMember_colon hcs hread htext hcs₂, readMember_colon hcs' hread' htext' hcs₂']
          rcases alike_readValue fuel fuel' d (by omega) (by omega) hbehind hbehind' with
            ⟨hbad, hbad'⟩ | ⟨v, ts'', more, more', hvalue, hvalue', hts, hmore, hmore'⟩
          · exact .bad (memberValues_of_worthless hbad k _) (memberValues_of_worthless hbad' k _)
          · rw [hvalue, hvalue']
            exact (alike_readMoreMembers fuel fuel' d (by omega) (by omega) hmore hmore').map
              (by rw [List.length_cons]; omega) fun _ hms => hms.cons _
        · exact .bad (badMembers_of_ne_colon hcs hread htext (hrest.ne_mark .colon hcolon))
            (badMembers_of_ne_colon hcs' hread' htext' (hrest'.ne_mark .colon hcolon))
      · obtain ⟨hread, f, htext⟩ := hkey rest
        obtain ⟨hread', f', htext'⟩ := hkey rest'
        exact .bad (badMembers_of_key hcs hread htext) (badMembers_of_key hcs' hread' htext')
    · exact .bad (badMembers_readMember (h.ne_quote hstring))
        (badMembers_readMember (h'.ne_quote hstring))

theorem alike_readMoreMembers : (fuel fuel' d : Nat) → {ts : List Token} → {cs cs' : List Char} →
    3 * ts.length + 1 ≤ fuel → 3 * ts.length + 1 ≤ fuel' → Spells ts cs → Spells ts cs' →
      Alike BadMembers (ts.length - 1) (readMoreMembers .characters fuel d cs)
        (readMoreMembers .characters fuel' d cs')
  | 0, _, _, _, _, _, hfuel, _, _, _ | _, 0, _, _, _, _, _, hfuel, _, _ => by omega
  | fuel + 1, fuel' + 1, d, ts, cs, cs', hfuel, hfuel', h, h' => by
    by_cases hclose : ts.head? = some (.mark .closeObject)
    · obtain ⟨ts', rest, rest', hlength, hcs, hcs', hrest, hrest'⟩ := h.mark₂ h' hclose
      rw [readMoreMembers, readMoreMembers, hcs, hcs']
      exact .same (by omega) hrest hrest'
    by_cases hcomma : ts.head? = some (.mark .comma)
    · obtain ⟨ts', rest, rest', hlength, hcs, hcs', hrest, hrest'⟩ := h.mark₂ h' hcomma
      rw [readMoreMembers, readMoreMembers, hcs, hcs']
      exact (alike_readMember fuel fuel' d (by omega) (by omega) hrest hrest').mono (by omega)
    · exact .bad
        (badMembers_readMoreMembers (h.ne_mark .closeObject hclose) (h.ne_mark .comma hcomma))
        (badMembers_readMoreMembers (h'.ne_mark .closeObject hclose) (h'.ne_mark .comma hcomma))

end

/-! ## Whole texts -/

theorem toOption_ofChars {v : Draft}
    (h : readValue .characters (3 * cs.length + 3) Draft.maxDepth cs = (v, some rest)) :
    (ofChars cs).toOption = if skipGap rest = [] then v.value.toOption else none := by
  rw [ofChars, ofUnits, Draft.ofText, h]
  dsimp only
  cases hrest : skipGap rest with
  | nil => cases v.value <;> rfl
  | cons c tail => cases v.value <;> rfl

/-- Texts that spell the same tokens have the same value, or both have none. -/
theorem ofChars_of_spells (h : Spells ts cs) (h' : Spells ts cs') :
    (ofChars cs).toOption = (ofChars cs').toOption := by
  have hlength := h.length_le
  have hlength' := h'.length_le
  rcases alike_readValue (3 * cs.length + 3) (3 * cs'.length + 3) Draft.maxDepth (by omega)
    (by omega) h h' with
    ⟨hbad, hbad'⟩ | ⟨v, ts', rest, rest', hread, hread', -, hrest, hrest'⟩
  · obtain ⟨f, hf⟩ := ofChars_of_worthless hbad
    obtain ⟨f', hf'⟩ := ofChars_of_worthless hbad'
    rw [hf, hf']
    rfl
  · rw [toOption_ofChars hread, toOption_ofChars hread']
    -- Both texts end here, or neither does.
    cases ts' with
    | nil => rw [if_pos hrest.eq_nil, if_pos hrest'.eq_nil]
    | cons t ts' => rw [if_neg hrest.ne_nil, if_neg hrest'.ne_nil]

end AnalyzerClient.Json
