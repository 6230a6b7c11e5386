import AnalyzerClient.Proofs.Server.Version

/-!
# The numbers of a version

The numbers of a version are written in one token of the text, the first that begins with two
numbers of 64 bits (`Version.Source`). The first two are those of its first two parts, and a token
in which one of them is larger is passed over (`ofToken?_eq_none_iff_of_denotes`). The third is that
of the digits which begin the third part, unless it is larger than 64 bits: then the token is not
passed over, and the version has zero in the place of the number (`ofText?_numbers`).
-/

namespace AnalyzerClient

namespace Text.Numeral

variable {s : List Char} {n bound : Nat}

/-- A text is a numeral of a number, however large: digits, with a `+` in front or without. -/
inductive Denotes : List Char → Nat → Prop
  | plain {ds} (hne : ds ≠ []) (digits : ∀ c ∈ ds, isDigit c = true) : Denotes ds (value ds)
  | signed {ds} (hne : ds ≠ []) (digits : ∀ c ∈ ds, isDigit c = true) :
    Denotes ('+' :: ds) (value ds)

theorem unsigned_of_digits (h : ∀ c ∈ s, isDigit c = true) : unsigned s = s := by
  unfold unsigned
  split
  · next s => cases h '+' List.mem_cons_self
  · rfl

theorem denotes_unsigned (hne : unsigned s ≠ []) (h : ∀ c ∈ unsigned s, isDigit c = true) :
    Denotes s (value (unsigned s)) := by
  cases s with
  | nil => exact absurd rfl hne
  | cons c s =>
    by_cases hc : c = '+'
    · subst hc
      exact .signed hne h
    · have hs : unsigned (c :: s) = c :: s := by
        unfold unsigned
        split
        · next he => exact absurd (List.cons.inj he).1 hc
        · rfl
      rw [hs] at h ⊢
      exact .plain (List.cons_ne_nil c s) h

/-- A numeral is read exactly if its number is below the bound. -/
theorem read?_eq_some_iff : read? bound s = some n ↔ Denotes s n ∧ n < bound := by
  constructor
  · intro h
    rw [read?] at h
    split at h
    · cases h
    · next hdigits =>
      obtain ⟨hne, hall⟩ := not_or.mp (mt (Bool.or_eq_true ..).mpr hdigits)
      split at h
      · next hlt =>
        cases h
        refine ⟨denotes_unsigned (by simpa using hne) ?_, hlt⟩
        exact List.all_eq_true.mp (by simpa using hall)
      · cases h
  · rintro ⟨hdenotes, hlt⟩
    have hread : ∀ ds : List Char, ds ≠ [] → (∀ c ∈ ds, isDigit c = true) → unsigned s = ds →
        value ds < bound → read? bound s = some (value ds) := by
      intro ds hne hds hs hlt
      rw [read?, hs, List.all_eq_true.mpr hds, if_neg (by simpa using hne), if_pos hlt]
    cases hdenotes with
    | plain hne hds => exact hread _ hne hds (unsigned_of_digits hds) hlt
    | signed hne hds => exact hread _ hne hds rfl hlt

theorem Denotes.unique {m : Nat} (h : Denotes s m) (h' : Denotes s n) : m = n := by
  have hm := read?_eq_some_iff.mpr ⟨h, Nat.lt_succ_of_le (Nat.le_max_left m n)⟩
  have hn := read?_eq_some_iff.mpr ⟨h', Nat.lt_succ_of_le (Nat.le_max_right m n)⟩
  exact Option.some.inj (hm.symm.trans hn)

end Text.Numeral

namespace Server.Version

open Text
open Text.Numeral (Denotes isDigit read?_eq_some_iff readWord? value)

variable {v : Version} {token major minor : List Char} {rest : List (List Char)} {text : String}
  {m n : Nat}

/-! ## Tokens -/

/-- The digits that begin the third part of a token, of which `rest` are the parts behind the first
two. -/
def patchDigits (rest : List (List Char)) : List Char := (rest.head?.getD []).takeWhile isDigit

/-- The third number of a version: that of some digits, and zero when there are none or when the
number has more than 64 bits. -/
def patchOf (digits : List Char) : Nat :=
  if value digits < Word.count64 then value digits else 0

theorem getD_readWord?_patchDigits (rest : List (List Char)) :
    (rest.head?.bind fun part => readWord? (part.takeWhile isDigit)).getD 0 =
      patchOf (patchDigits rest) := by
  have hdigits : ∀ c ∈ patchDigits rest, isDigit c = true := fun c hc => List.mem_takeWhile_imp hc
  have hread : (readWord? (patchDigits rest)).getD 0 = patchOf (patchDigits rest) := by
    cases hds : patchDigits rest with
    | nil => rfl
    | cons d ds =>
      have hdenotes := Denotes.plain (List.cons_ne_nil d ds) (hds ▸ hdigits)
      rw [patchOf]
      split
      · next hlt => rw [readWord?, read?_eq_some_iff.mpr ⟨hdenotes, hlt⟩, Option.getD_some]
      · next hge =>
        rw [Option.getD_eq_iff]
        refine .inr ⟨Option.eq_none_iff_forall_ne_some.mpr fun n hn => ?_, rfl⟩
        obtain ⟨hn, hlt⟩ := read?_eq_some_iff.mp hn
        exact hge (hn.unique hdenotes ▸ hlt)
  cases rest with
  | nil => rfl
  | cons part rest => exact hread

/-- What a version is read from: the numbers of the first two parts, and the digits that begin the
third one. -/
theorem ofToken?_eq_some_iff : ofToken? token = some v ↔
    ∃ major minor rest, parts token = major :: minor :: rest ∧
      (Denotes major v.major ∧ v.major < Word.count64) ∧
      (Denotes minor v.minor ∧ v.minor < Word.count64) ∧ v.patch = patchOf (patchDigits rest) := by
  rw [ofToken?, ← parts]
  constructor
  · intro h
    split at h
    · next major minor rest hparts =>
      obtain ⟨m, hm, h⟩ := Option.bind_eq_some_iff.mp h
      obtain ⟨n, hn, h⟩ := Option.bind_eq_some_iff.mp h
      cases h
      exact ⟨major, minor, rest, hparts, read?_eq_some_iff.mp hm, read?_eq_some_iff.mp hn,
        getD_readWord?_patchDigits rest⟩
    · cases h
  · rintro ⟨major, minor, rest, hparts, hmajor, hminor, hpatch⟩
    have hm : readWord? major = some v.major := read?_eq_some_iff.mpr hmajor
    have hn : readWord? minor = some v.minor := read?_eq_some_iff.mpr hminor
    rw [hparts]
    simp only [hm, hn, getD_readWord?_patchDigits, ← hpatch]
    rfl

/-- A token is passed over when one of its first two numbers is too large. -/
theorem ofToken?_eq_none_iff_of_denotes (hparts : parts token = major :: minor :: rest)
    (hmajor : Denotes major m) (hminor : Denotes minor n) :
    ofToken? token = none ↔ Word.count64 ≤ m ∨ Word.count64 ≤ n := by
  constructor
  · intro h
    by_contra hlt
    obtain ⟨hm, hn⟩ := not_or.mp hlt
    have hsome : ofToken? token = some ⟨m, n, patchOf (patchDigits rest)⟩ :=
      ofToken?_eq_some_iff.mpr ⟨major, minor, rest, hparts, ⟨hmajor, Nat.not_le.mp hm⟩,
        ⟨hminor, Nat.not_le.mp hn⟩, rfl⟩
    cases h.symm.trans hsome
  · intro hge
    refine Option.eq_none_iff_forall_ne_some.mpr fun v hv => ?_
    obtain ⟨major', minor', rest', hparts', ⟨hm, hmlt⟩, ⟨hn, hnlt⟩, -⟩ :=
      ofToken?_eq_some_iff.mp hv
    cases hparts.symm.trans hparts'
    rw [hm.unique hmajor] at hmlt
    rw [hn.unique hminor] at hnlt
    omega

/-! ## Texts -/

/-- The token of a text from which its version is taken: the first that begins with two numbers. -/
def Source (text : String) (token : List Char) : Prop :=
  ∃ earlier later, Chars.pieces separates text.toList = earlier ++ token :: later ∧
    (∀ t ∈ earlier, ¬ Numbered t) ∧ Numbered token

theorem ofText?_eq_some_iff :
    ofText? text = some v ↔ ∃ token, Source text token ∧ ofToken? token = some v := by
  rw [ofText?, find?, List.findSome?_eq_some_iff]
  constructor
  · rintro ⟨earlier, token, later, hpieces, htoken, hearlier⟩
    refine ⟨token, ⟨earlier, later, hpieces, ?_, ?_⟩, htoken⟩
    · exact fun t ht => ofToken?_eq_none_iff.mp (hearlier t ht)
    · by_contra hnot
      cases htoken.symm.trans (ofToken?_eq_none_iff.mpr hnot)
  · rintro ⟨token, ⟨earlier, later, hpieces, hearlier, -⟩, htoken⟩
    exact ⟨earlier, token, later, hpieces, htoken,
      fun t ht => ofToken?_eq_none_iff.mpr (hearlier t ht)⟩

/-- The first two numbers of the version of a text are those of the token from which it is taken,
and the third one is that of the digits which begin the third part exactly when it has at most 64
bits; if it is larger, the version has zero instead. A token is passed over exactly when one of its
first two numbers is larger. -/
theorem ofText?_numbers (text : String) :
    (∀ v, ofText? text = some v → ∃ token major minor rest, Source text token ∧
      parts token = major :: minor :: rest ∧ Denotes major v.major ∧ Denotes minor v.minor ∧
      (value (patchDigits rest) = v.patch ↔ value (patchDigits rest) < Word.count64) ∧
      (Word.count64 ≤ value (patchDigits rest) → v.patch = 0)) ∧
    ∀ token major minor rest m n, parts token = major :: minor :: rest → Denotes major m →
      Denotes minor n → (ofToken? token = none ↔ Word.count64 ≤ m ∨ Word.count64 ≤ n) := by
  constructor
  · intro v h
    obtain ⟨token, hsource, htoken⟩ := ofText?_eq_some_iff.mp h
    obtain ⟨major, minor, rest, hparts, ⟨hmajor, -⟩, ⟨hminor, -⟩, hpatch⟩ :=
      ofToken?_eq_some_iff.mp htoken
    rw [patchOf] at hpatch
    refine ⟨token, major, minor, rest, hsource, hparts, hmajor, hminor, ?_, ?_⟩
    · split at hpatch
      · next hlt => exact iff_of_true hpatch.symm hlt
      · next hge =>
        refine iff_of_false (fun he => hge ?_) hge
        rw [he, hpatch]
        decide
    · intro hge
      rw [hpatch, if_neg (Nat.not_lt.mpr hge)]
  · intro token major minor rest m n hparts hmajor hminor
    exact ofToken?_eq_none_iff_of_denotes hparts hmajor hminor

/-- A third number of 65 bits is lost, so that the version stands below one that it is far above. A
second number of 65 bits is not. -/
theorem ofText?_numbers_overflow :
    ofText? "wa 1.2.18446744073709551616" = some ⟨1, 2, 0⟩ ∧
    needsUpgrade ⟨1, 2, 0⟩ ⟨1, 2, 3⟩ = true ∧
    (∃ token major minor rest, Source "wa 1.2.18446744073709551616" token ∧
      parts token = major :: minor :: rest ∧ Denotes major 1 ∧ Denotes minor 2 ∧
      (value (patchDigits rest) = 0 ↔ value (patchDigits rest) < Word.count64)) ∧
    (∃ rest, parts "1.2.18446744073709551616".toList = ['1'] :: ['2'] :: rest ∧
      value (patchDigits rest) = Word.count64) ∧
    ofToken? "1.18446744073709551616".toList = none := by
  obtain ⟨hnumbers, hpassed⟩ := ofText?_numbers "wa 1.2.18446744073709551616"
  have htext : ofText? "wa 1.2.18446744073709551616" = some ⟨1, 2, 0⟩ := by decide
  obtain ⟨token, major, minor, rest, hsource, hparts, hmajor, hminor, hpatch, -⟩ :=
    hnumbers _ htext
  have hsecond : Denotes "18446744073709551616".toList Word.count64 :=
    .plain (by decide) (List.all_eq_true.mp (by decide))
  have hfirst : Denotes ['1'] 1 := .plain (by decide) (List.all_eq_true.mp (by decide))
  exact ⟨htext, by decide, ⟨token, major, minor, rest, hsource, hparts, hmajor, hminor, hpatch⟩,
    ⟨_, rfl, by decide +kernel⟩,
    (hpassed _ _ _ [] _ _ rfl hfirst hsecond).mpr (.inr (Nat.le_refl _))⟩

end Server.Version

end AnalyzerClient
