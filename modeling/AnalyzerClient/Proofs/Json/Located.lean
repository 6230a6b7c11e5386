import AnalyzerClient.Proofs.Json.Accepted

/-!
# Where a fault is

A text without a value is at fault at one of its characters, or at its end (`among_of_ofChars`). A
reader that finds no fault leaves a rest that is no longer than what it was given, so that the
faults of what follows are among the same characters.
-/

namespace AnalyzerClient.Json

open Draft (ofScalar readValue readItems readItem readMoreItems readMembers readMember
  readMoreMembers)

variable {α β : Type} {m n : Nat} {c : Char} {cs rest : List Char}

/-! ## Faults -/

/-- One of the last `n` characters is at fault, or the text has ended. -/
def Fault.Among (n : Nat) (f : Fault) : Prop :=
  f.category = .ended ∧ f.left = 0 ∨ f.category = .malformed ∧ f.left < n

theorem Fault.among_ended (n : Nat) : Fault.Among n ⟨.ended, 0⟩ := .inl ⟨rfl, rfl⟩

theorem Fault.among_malformed (h : m < n) : Fault.Among n ⟨.malformed, m⟩ := .inr ⟨rfl, h⟩

theorem Fault.Among.mono {f : Fault} (h : f.Among m) (hle : m ≤ n) : f.Among n :=
  h.imp_right fun h => ⟨h.1, Nat.lt_of_lt_of_le h.2 hle⟩

/-- What a reader makes of the last `n` characters of a text: a fault among them, or a value and a
rest of them. -/
structure Tracks (value : α → Except Fault β) (n : Nat) (r : α × Option (List Char)) : Prop where
  among : ∀ f, value r.1 = .error f → f.Among n
  rest_le : ∀ v rest, value r.1 = .ok v → r.2 = some rest → rest.length ≤ n

namespace Tracks

variable {value : α → Except Fault β} {r : α × Option (List Char)} {a : α}

theorem mono (h : Tracks value m r) (hle : m ≤ n) : Tracks value n r :=
  ⟨fun f hf => (h.among f hf).mono hle, fun v rest hv hrest =>
    Nat.le_trans (h.rest_le v rest hv hrest) hle⟩

theorem of_error {f : Fault} {behind : Option (List Char)} (ha : value a = .error f)
    (hf : f.Among n) : Tracks value n (a, behind) := by
  constructor
  · intro g hg
    rw [ha] at hg
    cases hg
    exact hf
  · intro v _ hv
    rw [ha] at hv
    cases hv

/-- A reader that makes something of what another one has read. -/
theorem wrap {α' β' : Type} {value' : α' → Except Fault β'} {a' : α'} {g : β → β'}
    (h : Tracks value n r) (ha : value' a' = (value r.1).map g) : Tracks value' n (a', r.2) := by
  constructor
  · intro f hf
    dsimp only at hf
    cases hr : value r.1 with
    | error g => rw [ha, hr] at hf; cases hf; exact h.among _ hr
    | ok v => rw [ha, hr] at hf; cases hf
  · intro v rest hv hrest
    dsimp only at hv
    cases hr : value r.1 with
    | error g => rw [ha, hr] at hv; cases hv
    | ok v => exact h.rest_le v rest hr hrest

theorem of_ok {v : β} (ha : value a = .ok v) (hrest : rest.length ≤ n) :
    Tracks value n (a, some rest) := by
  constructor
  · intro f hf
    rw [ha] at hf
    cases hf
  · rintro _ _ - hsome
    cases hsome
    exact hrest

end Tracks

theorem length_skipGap (cs : List Char) : (skipGap cs).length ≤ cs.length :=
  (List.dropWhile_sublist _).length_le

theorem length_of_skipGap (h : skipGap cs = c :: rest) : rest.length < cs.length := by
  have hle := length_skipGap cs
  rw [h] at hle
  exact hle

/-! ## Strings and numbers -/

/-- What is read of a string in the last `n` characters of a text. -/
structure StringText.Tracks (n : Nat) (t : StringText) : Prop where
  flaw : ∀ f, t.flaw = some f → f.Among n
  among : ∀ f, t.rest = .error f → f.Among n
  rest_lt : ∀ rest, t.rest = .ok rest → rest.length < n

namespace StringText.Tracks

variable {t : StringText}

theorem mono (h : t.Tracks m) (hle : m ≤ n) : t.Tracks n :=
  ⟨fun f hf => (h.flaw f hf).mono hle, fun f hf => (h.among f hf).mono hle, fun rest hrest =>
    Nat.lt_of_lt_of_le (h.rest_lt rest hrest) hle⟩

theorem close (h : rest.length < n) : (StringText.close rest).Tracks n :=
  ⟨nofun, nofun, fun _ hrest => by cases hrest; exact h⟩

theorem stop {f : Fault} (h : f.Among n) : (StringText.stop f).Tracks n :=
  ⟨nofun, fun _ hf => by cases hf; exact h, nofun⟩

theorem push (h : t.Tracks n) (units : List Char) : (t.push units).Tracks n :=
  ⟨h.flaw, h.among, h.rest_lt⟩

theorem flawed (h : t.Tracks n) (hlt : m < n) : (t.flawed ⟨.malformed, m⟩).Tracks n :=
  ⟨fun _ hf => by cases hf; exact Fault.among_malformed hlt, h.among, h.rest_lt⟩

theorem flawIf (h : t.Tracks n) {high : Option Nat} (hlt : cs.length < n) :
    (flawIf high cs t).Tracks n := by
  cases high with
  | none => exact h
  | some _ => exact h.flawed hlt

end StringText.Tracks

theorem leftAfterOctets_le (u : Units) (octets : Nat) (cs : List Char) :
    leftAfterOctets u octets cs ≤ cs.length := by
  fun_induction leftAfterOctets u octets cs with
  | case1 => exact Nat.le_refl _
  | case2 => exact Nat.le_refl _
  | case3 _ _ _ _ ih => exact Nat.le_succ_of_le ih

theorem tracks_readString (u : Units) (high : Option Nat) (cs : List Char) :
    (readString u high cs).Tracks cs.length := by
  have unicode (a b c d : Char) (cs : List Char) :
      cs.length < ('\\' :: 'u' :: a :: b :: c :: d :: cs).length := by
    simp only [List.length_cons]
    omega
  have short (c : Char) (cs : List Char) : cs.length < ('\\' :: c :: cs).length := by
    simp only [List.length_cons]
    omega
  fun_induction readString u high cs with
  | case1 | case3 | case10 => exact .stop (Fault.among_ended _)
  | case2 high cs =>
    exact (StringText.Tracks.close (Nat.lt_succ_self _)).flawIf (Nat.lt_succ_self _)
  | case4 high a b c d cs =>
    exact .stop (Fault.among_malformed
      (Nat.lt_of_le_of_lt (leftAfterOctets_le u 4 _) (short 'u' (a :: b :: c :: d :: cs))))
  | case5 _ _ _ _ _ _ _ _ _ ih | case9 _ _ _ _ _ _ _ _ _ ih =>
    exact (ih.mono (unicode ..).le).push _
  | case6 _ _ _ _ _ _ _ _ _ ih | case8 _ _ _ _ _ _ _ _ _ ih =>
    exact (ih.mono (unicode ..).le).flawed (unicode ..)
  | case7 _ _ _ _ _ _ _ _ ih => exact ih.mono (unicode ..).le
  | case11 high cs =>
    exact .stop (Fault.among_malformed
      (Nat.lt_of_le_of_lt (leftAfterOctets_le u 4 cs) (short 'u' cs)))
  | case12 =>
    exact (StringText.Tracks.stop (Fault.among_malformed (short ..))).flawIf (short ..)
  | case13 _ _ _ _ _ _ _ ih => exact ((ih.mono (short ..).le).push _).flawIf (short ..)
  | case14 =>
    exact (StringText.Tracks.stop (Fault.among_malformed (Nat.lt_succ_self _))).flawIf
      (Nat.lt_succ_self _)
  | case15 _ _ _ _ _ _ _ _ _ ih =>
    exact ((ih.mono (Nat.le_succ _)).push _).flawIf (Nat.lt_succ_self _)

/-- The text of a string in the last `n` characters, or the fault that is counted first. -/
theorem StringText.Tracks.among_text {t : StringText} (h : t.Tracks n) {u : Units} {f : Fault}
    (hf : t.text u = .error f) : f.Among n := by
  rw [StringText.text] at hf
  split at hf
  · next hflaw => cases hf; exact h.flaw _ hflaw
  · next hrest => cases hf; exact h.among _ hrest
  · next rest _ hrest =>
    split at hf
    · cases hf
    · cases hf
      exact Fault.among_malformed (h.rest_lt rest hrest)

theorem tracks_ofString (u : Units) (cs : List Char) :
    Tracks Draft.value cs.length (Draft.ofString u cs) := by
  have hstring := tracks_readString u none cs
  unfold Draft.ofString
  dsimp only
  constructor
  · intro f hf
    split at hf
    · cases hf
    · next htext _ => cases hf; exact hstring.among_text htext
    · next htext _ => cases hf; exact hstring.among_text htext
  · intro v rest _ hrest
    cases hread : (readString u none cs).rest with
    | error f => rw [hread] at hrest; cases hrest
    | ok rest' =>
      rw [hread] at hrest
      cases hrest
      exact (hstring.rest_lt rest hread).le

/-- What a reader of a part of a number makes of the last `n` characters of a text. -/
def Reads (n : Nat) : Except Fault (α × List Char) → Prop
  | .error f => f.Among n
  | .ok (_, rest) => rest.length ≤ n

theorem Reads.mono {r : Except Fault (α × List Char)} (h : Reads m r) (hle : m ≤ n) :
    Reads n r := by
  cases r with
  | error f => exact Fault.Among.mono h hle
  | ok p => exact Nat.le_trans h hle

theorem Reads.bind {r : Except Fault (α × List Char)}
    {next : α × List Char → Except Fault (β × List Char)} (h : Reads n r)
    (hnext : ∀ a rest, Reads rest.length (next (a, rest))) : Reads n (r >>= next) := by
  cases r with
  | error f => exact h
  | ok p => exact (hnext p.1 p.2).mono h

theorem Reads.map {r : Except Fault (α × List Char)} (h : Reads n r) (g : α → β) :
    Reads n (r.map fun p => (g p.1, p.2)) := by
  cases r with
  | error f => exact h
  | ok p => exact h

theorem reads_readDigits (cs : List Char) : Reads cs.length (readDigits cs) := by
  unfold readDigits
  split
  · exact Fault.among_ended _
  · split
    · exact Nat.le_succ_of_le (List.dropWhile_sublist _).length_le
    · exact Fault.among_malformed (Nat.lt_succ_self _)

theorem reads_readWhole (cs : List Char) : Reads cs.length (readWhole cs) := by
  unfold readWhole
  split
  · split
    · exact Fault.among_malformed (Nat.lt_succ_of_lt (Nat.lt_succ_self _))
    · exact Nat.le_succ _
  · exact reads_readDigits _

theorem reads_readFraction (cs : List Char) : Reads cs.length (readFraction cs) := by
  unfold readFraction
  split
  · exact ((reads_readDigits _).mono (Nat.le_succ _)).map _
  · exact Nat.le_refl _

theorem reads_readExponent (cs : List Char) : Reads cs.length (readExponent cs) := by
  unfold readExponent
  split
  · split
    · split
      next negative rest hsign =>
      refine ((reads_readDigits rest).mono ?_).map fun ds => some (negative, ds)
      split at hsign <;> cases hsign <;> simp only [List.length_cons] <;> omega
    · exact Nat.le_refl _
  · exact Nat.le_refl _

theorem reads_readNumber (cs : List Char) : Reads cs.length (readNumber cs) := by
  unfold readNumber
  split
  next negative digits hsign =>
  have hdigits : digits.length ≤ cs.length := by
    split at hsign <;> cases hsign
    · exact Nat.le_succ _
    · exact Nat.le_refl _
  refine ((reads_readWhole digits).mono hdigits).bind fun whole rest => ?_
  refine (reads_readFraction rest).bind fun fraction rest => ?_
  exact (reads_readExponent rest).bind fun exponent rest => Nat.le_refl _

theorem tracks_ofNumber (cs : List Char) : Tracks Draft.value cs.length (Draft.ofNumber cs) := by
  have hnumber := reads_readNumber cs
  unfold Draft.ofNumber
  split
  · next f hread => rw [hread] at hnumber; exact .of_error rfl hnumber
  · next t rest hread =>
    obtain ⟨n, hcs, -⟩ := readNumber_sound hread
    obtain ⟨c, tail, htail, -⟩ := n.exists_cons
    have hlt : rest.length < cs.length := by
      rw [hcs, htail, List.length_append, List.length_cons]
      omega
    split
    · exact .of_ok rfl hlt.le
    · exact .of_error rfl (Fault.among_malformed hlt)

theorem tracks_ofWord (word cs : List Char) {d : Draft} {v : Json} (hd : d.value = .ok v) :
    Tracks Draft.value cs.length (Draft.ofWord word d cs) := by
  unfold Draft.ofWord
  split
  · next f hread =>
    refine .of_error rfl ?_
    induction word generalizing cs with
    | nil => cases hread
    | cons w word ih =>
      cases cs with
      | nil => cases hread; exact Fault.among_ended _
      | cons c cs =>
        rw [readWord] at hread
        split at hread
        · exact (ih cs hread).mono (Nat.le_succ _)
        · cases hread; exact Fault.among_malformed (Nat.lt_succ_self _)
  · next rest hread =>
    rw [readWord_sound hread, List.length_append]
    exact .of_ok hd (Nat.le_add_left ..)

theorem tracks_ofScalar (u : Units) (cs : List Char) :
    Tracks Draft.value cs.length (ofScalar u cs) := by
  unfold ofScalar
  split
  · exact .of_error rfl (Fault.among_ended _)
  · exact (tracks_ofString u _).mono (Nat.le_succ _)
  · exact (tracks_ofWord _ _ rfl).mono (Nat.le_succ _)
  · exact (tracks_ofWord _ _ rfl).mono (Nat.le_succ _)
  · exact (tracks_ofWord _ _ rfl).mono (Nat.le_succ _)
  · split
    · exact tracks_ofNumber _
    · exact .of_error rfl (Fault.among_malformed (Nat.lt_succ_self _))

theorem tracks_ofDeep (u : Units) (inObject : Bool) (cs : List Char) :
    Tracks Draft.value (cs.length + 1) (Draft.ofDeep u inObject cs) := by
  unfold Draft.ofDeep
  dsimp only
  split <;> exact .of_error rfl (Fault.among_malformed (Nat.lt_succ_self _))

/-! ## Readers -/

/-- What a reader of members makes of the last `n` characters, whatever members stand before. -/
def TracksMembers (n : Nat)
    (r : List (Except Fault String × Draft) × Option (List Char)) : Prop :=
  ∀ before, Tracks (Draft.memberValues · before) n r

theorem TracksMembers.mono {r : List (Except Fault String × Draft) × Option (List Char)}
    (h : TracksMembers m r) (hle : m ≤ n) : TracksMembers n r := fun before => (h before).mono hle

/-- An item, and those behind it if it has a value. -/
theorem tracks_items {d : Draft} {items : List Draft × Option (List Char)}
    (hd : Tracks Draft.value n (d, some rest)) (hitems : Tracks Draft.values rest.length items) :
    Tracks Draft.values n (d :: items.1, items.2) := by
  cases hv : d.value with
  | error f => exact .of_error (by rw [Draft.values, hv]; rfl) (hd.among f hv)
  | ok v =>
    refine (hitems.mono (hd.rest_le v rest hv rfl)).wrap (g := (v :: ·)) ?_
    rw [Draft.values, hv]
    rfl

/-- A member, and those behind it if it has a key and a value. -/
theorem tracks_members {key : Except Fault String} {d : Draft}
    {members : List (Except Fault String × Draft) × Option (List Char)}
    (hkey : ∀ f, key = .error f → f.Among n) (hd : Tracks Draft.value n (d, some rest))
    (hmembers : TracksMembers rest.length members) :
    TracksMembers n ((key, d) :: members.1, members.2) := by
  intro before
  cases key with
  | error f => exact .of_error (by rw [Draft.memberValues]; rfl) (hkey f rfl)
  | ok k =>
    cases hv : d.value with
    | error f =>
      refine .of_error ?_ (hd.among f hv)
      rw [Draft.memberValues]
      simp only [bind, Except.bind, hv]
    | ok v =>
      refine ((hmembers (before.insert k v)).mono (hd.rest_le v rest hv rfl)).wrap (g := id) ?_
      rw [Draft.memberValues]
      simp only [bind, Except.bind, hv]
      cases Draft.memberValues members.1 (before.insert k v) <;> rfl

theorem tracks_lastItem {d : Draft} (hd : Tracks Draft.value n (d, none)) :
    Tracks Draft.values n ([d], none) := by
  refine hd.wrap (g := ([·])) ?_
  rw [Draft.values]
  cases d.value <;> rfl

theorem tracks_lastMember {key : Except Fault String} {d : Draft}
    (hkey : ∀ f, key = .error f → f.Among n) (hd : Tracks Draft.value n (d, none)) :
    TracksMembers n ([(key, d)], none) := by
  intro before
  cases key with
  | error f => exact .of_error (by rw [Draft.memberValues]; rfl) (hkey f rfl)
  | ok k =>
    refine hd.wrap (g := (before.insert k ·)) ?_
    rw [Draft.memberValues]
    cases d.value <;> rfl

/-- A fault in the place of a member. -/
theorem tracks_noMember {f : Fault} (h : f.Among n) :
    TracksMembers n ([(.error f, .fault f)], none) :=
  tracks_lastMember (fun _ hf => by cases hf; exact h) (.of_error rfl h)

theorem tracks_nil (h : rest.length ≤ n) : Tracks Draft.values n ([], some rest) :=
  .of_ok rfl h

theorem tracksMembers_nil (h : rest.length ≤ n) : TracksMembers n ([], some rest) :=
  fun _ => .of_ok rfl h

mutual

theorem tracks_readValue (u : Units) : (fuel d : Nat) → (cs : List Char) →
    Tracks Draft.value cs.length (readValue u fuel d cs)
  | 0, _, cs => by rw [readValue]; exact .of_error rfl (Fault.among_ended _)
  | fuel + 1, d, cs => by
    rw [readValue]
    split
    · next rest hcs =>
      have hlt := length_of_skipGap hcs
      cases d with
      | zero => exact (tracks_ofDeep u false rest).mono hlt
      | succ d =>
        exact ((tracks_readItems u fuel d rest).mono hlt.le).wrap (by rw [Draft.value])
    · next rest hcs =>
      have hlt := length_of_skipGap hcs
      cases d with
      | zero => exact (tracks_ofDeep u true rest).mono hlt
      | succ d =>
        exact ((tracks_readMembers u fuel d rest []).mono hlt.le).wrap (by rw [Draft.value])
    · exact (tracks_ofScalar u _).mono (length_skipGap cs)

theorem tracks_readItems (u : Units) : (fuel d : Nat) → (cs : List Char) →
    Tracks Draft.values cs.length (readItems u fuel d cs)
  | 0, _, cs => by rw [readItems]; exact .of_error rfl (Fault.among_ended _)
  | fuel + 1, d, cs => by
    rw [readItems]
    split
    · next hcs => exact tracks_nil (length_of_skipGap hcs).le
    · exact (tracks_readItem u fuel d _).mono (length_skipGap cs)

theorem tracks_readItem (u : Units) : (fuel d : Nat) → (cs : List Char) →
    Tracks Draft.values cs.length (readItem u fuel d cs)
  | 0, _, cs => by rw [readItem]; exact .of_error rfl (Fault.among_ended _)
  | fuel + 1, d, cs => by
    have hvalue := tracks_readValue u fuel d cs
    rw [readItem]
    split
    · next item hread => rw [hread] at hvalue; exact tracks_lastItem hvalue
    · next item rest hread =>
      rw [hread] at hvalue
      exact tracks_items hvalue (tracks_readMoreItems u fuel d rest)

theorem tracks_readMoreItems (u : Units) : (fuel d : Nat) → (cs : List Char) →
    Tracks Draft.values cs.length (readMoreItems u fuel d cs)
  | 0, _, cs => by rw [readMoreItems]; exact .of_error rfl (Fault.among_ended _)
  | fuel + 1, d, cs => by
    rw [readMoreItems]
    split
    · next hcs => exact tracks_nil (length_of_skipGap hcs).le
    · next hcs => exact (tracks_readItem u fuel d _).mono (length_of_skipGap hcs).le
    · exact .of_error rfl (Fault.among_ended _)
    · next hcs => exact .of_error rfl (Fault.among_malformed (length_of_skipGap hcs))

theorem tracks_readMembers (u : Units) : (fuel d : Nat) → (cs : List Char) →
    TracksMembers cs.length (readMembers u fuel d cs)
  | 0, _, cs => by
    rw [readMembers]
    exact tracks_noMember (Fault.among_ended _)
  | fuel + 1, d, cs => by
    rw [readMembers]
    split
    · next hcs => exact tracksMembers_nil (length_of_skipGap hcs).le
    · exact (tracks_readMember u fuel d _).mono (length_skipGap cs)

theorem tracks_readMember (u : Units) : (fuel d : Nat) → (cs : List Char) →
    TracksMembers cs.length (readMember u fuel d cs)
  | 0, _, cs => by rw [readMember]; exact tracks_noMember (Fault.among_ended _)
  | fuel + 1, d, cs => by
    rw [readMember]
    split
    · next rest hcs =>
      have hlt := length_of_skipGap hcs
      have hstring := (tracks_readString u none rest).mono hlt.le
      have hkey {f : Fault} (hf : (readString u none rest).text u = .error f) : f.Among cs.length :=
        hstring.among_text hf
      dsimp only
      split
      · next f hread =>
        exact tracks_lastMember (fun _ => hkey) (.of_error rfl (hstring.among f hread))
      · next behind hread =>
        have hbehind := hstring.rest_lt behind hread
        split
        · next value hcolon =>
          have hlt := Nat.lt_trans (length_of_skipGap hcolon) hbehind
          have hvalue := (tracks_readValue u fuel d value).mono hlt.le
          split
          · next hread => rw [hread] at hvalue; exact tracks_lastMember (fun _ => hkey) hvalue
          · next hread =>
            rw [hread] at hvalue
            exact tracks_members (fun _ => hkey) hvalue (tracks_readMoreMembers u fuel d _)
        · exact tracks_lastMember (fun _ => hkey) (.of_error rfl (Fault.among_ended _))
        · next hcolon =>
          have hlt := Nat.lt_trans (length_of_skipGap hcolon) hbehind
          exact tracks_lastMember (fun _ => hkey) (.of_error rfl (Fault.among_malformed hlt))
    · exact tracks_noMember (Fault.among_ended _)
    · next hcs => exact tracks_noMember (Fault.among_malformed (length_of_skipGap hcs))

theorem tracks_readMoreMembers (u : Units) : (fuel d : Nat) → (cs : List Char) →
    TracksMembers cs.length (readMoreMembers u fuel d cs)
  | 0, _, cs => by rw [readMoreMembers]; exact tracks_noMember (Fault.among_ended _)
  | fuel + 1, d, cs => by
    rw [readMoreMembers]
    split
    · next hcs => exact tracksMembers_nil (length_of_skipGap hcs).le
    · next hcs => exact (tracks_readMember u fuel d _).mono (length_of_skipGap hcs).le
    · exact tracks_noMember (Fault.among_ended _)
    · next hcs => exact tracks_noMember (Fault.among_malformed (length_of_skipGap hcs))

end

/-- A text without a value is at fault at one of its characters, or at its end. -/
theorem among_of_ofChars {f : Fault} (h : ofChars cs = .error f) : f.Among cs.length := by
  have hvalue := tracks_readValue .characters (3 * cs.length + 3) Draft.maxDepth cs
  rw [ofChars, ofUnits, Draft.ofText] at h
  rcases hread : readValue .characters (3 * cs.length + 3) Draft.maxDepth cs with ⟨d, behind⟩
  rw [hread] at h hvalue
  cases hd : d.value with
  | error g =>
    have hg := hvalue.among g hd
    cases behind with
    | none => simp only [bind, Except.bind, hd] at h; cases h; exact hg
    | some rest =>
      dsimp only at h
      split at h <;> (simp only [bind, Except.bind, hd] at h; cases h; exact hg)
  | ok v =>
    cases behind with
    | none => simp only [bind, Except.bind, hd] at h; cases h
    | some rest =>
      have hle := hvalue.rest_le v rest hd rfl
      dsimp only at h
      split at h
      · simp only [bind, Except.bind, hd] at h; cases h
      · next hrest =>
        simp only [bind, Except.bind, hd] at h
        cases h
        exact Fault.among_malformed (Nat.lt_of_lt_of_le (length_of_skipGap hrest) hle)

end AnalyzerClient.Json
