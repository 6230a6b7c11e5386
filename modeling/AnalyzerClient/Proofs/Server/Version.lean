import AnalyzerClient.Proofs.Protocol.Frame
import AnalyzerClient.Proofs.Text.Words
import AnalyzerClient.Server.Version
import Mathlib.Data.List.TakeWhile

/-!
# The version that a text tells

A token tells a version when it is `major.minor.patch` behind any number of `v`s, whatever follows
that is no digit, or `major.minor` alone (`Version.Tells`). The version of a text is the one that
its first token with two numbers tells, whatever the tokens before it look like
(`Version.ofText?_of_told`), and versions are ordered by their numbers, the major one first
(`Version.needsUpgrade_iff`).
-/

namespace AnalyzerClient

namespace Text

/-- The first piece of a text ends in front of the first character that parts it. -/
theorem Chars.head?_pieces (p : Char → Bool) (s : List Char) :
    (pieces p s).head? = some (s.takeWhile (!p ·)) := by
  induction s with
  | nil => rfl
  | cons c s ih =>
    obtain ⟨piece, rest, hs⟩ := List.exists_cons_of_ne_nil (pieces_ne_nil p s)
    rw [hs, List.head?_cons, Option.some.injEq] at ih
    rw [pieces, hs]
    cases hc : p c <;> simp [hc, ih]

namespace Numeral

/-- The digits of a number end where no digit follows. -/
theorem takeWhile_digits_append (n : Nat) {rest : List Char}
    (hrest : ∀ c ∈ rest.head?, isDigit c = false) :
    (digits n ++ rest).takeWhile isDigit = digits n := by
  rw [List.takeWhile_append_of_pos fun c hc => isDigit_of_mem_digits hc]
  cases rest with
  | nil => simp
  | cons c rest => rw [List.takeWhile_cons, hrest c rfl]; simp

/-- A numeral begins with no character but a digit. -/
theorem dropWhile_digits_append {p : Char → Bool} (hp : ∀ c, isDigit c = true → p c = false)
    (n : Nat) (rest : List Char) : (digits n ++ rest).dropWhile p = digits n ++ rest := by
  obtain ⟨d, ds, hn⟩ := List.exists_cons_of_ne_nil (digits_ne_nil n)
  have hd : p d = false := hp d (isDigit_of_mem_digits (hn ▸ List.mem_cons_self))
  rw [hn, List.cons_append, List.dropWhile_cons_of_neg (by simp [hd])]

end Numeral

end Text

namespace Server.Version

open Text
open Text.Numeral (digits isDigit readWord?)

variable {v : Version} {token rest : List Char} {text : String}

/-! ## Tokens -/

/-- The numbers of a version have 64 bits. -/
structure Fits (v : Version) : Prop where
  major : v.major < Word.count64
  minor : v.minor < Word.count64
  patch : v.patch < Word.count64

/-- The parts of a token between points, without the `v`s in front. -/
def parts (token : List Char) : List (List Char) :=
  Chars.pieces (· = '.') (token.dropWhile (· = 'v'))

/-- A token that begins with two numbers of 64 bits, parted by a point. -/
def Numbered (token : List Char) : Prop :=
  ∃ major minor rest, parts token = major :: minor :: rest ∧
    (∃ m, readWord? major = some m) ∧ ∃ n, readWord? minor = some n

/-- A token that tells a version: three numbers behind any number of `v`s, and what follows is not
one more digit, or two numbers and nothing else. -/
inductive Tells : List Char → Version → Prop
  | full {vs suffix : List Char} (v : Version) (marks : ∀ c ∈ vs, c = 'v')
      (ends : ∀ c ∈ suffix.head?, isDigit c = false) : Tells (vs ++ (v.render.toList ++ suffix)) v
  | short {vs : List Char} (major minor : Nat) (marks : ∀ c ∈ vs, c = 'v') :
      Tells (vs ++ (digits major ++ '.' :: digits minor)) ⟨major, minor, 0⟩

theorem ofToken?_eq_none_iff : ofToken? token = none ↔ ¬ Numbered token := by
  rw [ofToken?, ← parts]
  constructor
  · rintro h ⟨major, minor, rest, hparts, ⟨m, hm⟩, n, hn⟩
    rw [hparts] at h
    simp [hm, hn] at h
  · intro h
    split
    · next major minor rest hparts =>
      cases hm : readWord? major with
      | none => rfl
      | some m =>
        cases hn : readWord? minor with
        | none => rfl
        | some n => exact absurd ⟨major, minor, rest, hparts, ⟨m, hm⟩, n, hn⟩ h
    · rfl

/-! ## The numbers of a token -/

theorem toList_render (v : Version) :
    v.render.toList = digits v.major ++ '.' :: (digits v.minor ++ '.' :: digits v.patch) := by
  simp [render, Numeral.render]

theorem not_point_of_isDigit {c : Char} (h : isDigit c = true) : decide (c = '.') = false := by
  refine decide_eq_false ?_
  rintro rfl
  cases h

theorem pieces_digits (n : Nat) : Chars.pieces (· = '.') (digits n) = [digits n] :=
  Chars.pieces_of_forall fun _ hc => not_point_of_isDigit (Numeral.isDigit_of_mem_digits hc)

theorem pieces_digits_point (n : Nat) (rest : List Char) :
    Chars.pieces (· = '.') (digits n ++ '.' :: rest) =
      digits n :: Chars.pieces (· = '.') rest := by
  rw [Chars.pieces_append (by decide), pieces_digits, List.singleton_append]

/-- The `v`s in front of a numeral do not count. -/
theorem parts_marked {vs : List Char} (hvs : ∀ c ∈ vs, c = 'v') (n : Nat) (rest : List Char) :
    parts (vs ++ (digits n ++ rest)) = Chars.pieces (· = '.') (digits n ++ rest) := by
  have hdigit : ∀ c, isDigit c = true → decide (c = 'v') = false := by
    intro c hc
    refine decide_eq_false ?_
    rintro rfl
    cases hc
  rw [parts, List.dropWhile_append_of_pos fun c hc => decide_eq_true (hvs c hc),
    Numeral.dropWhile_digits_append hdigit]

/-- The digits that begin the third part. -/
theorem head?_pieces_digits (n : Nat) {suffix : List Char}
    (hsuffix : ∀ c ∈ suffix.head?, isDigit c = false) :
    ((Chars.pieces (· = '.') (digits n ++ suffix)).head?.map (·.takeWhile isDigit)) =
      some (digits n) := by
  have hboth : (fun c => decide (isDigit c = true ∧ (!decide (c = '.')) = true)) = isDigit := by
    funext c
    cases hc : isDigit c with
    | false => simp
    | true => simp [not_point_of_isDigit hc]
  rw [Chars.head?_pieces, Option.map_some, List.takeWhile_takeWhile, hboth,
    Numeral.takeWhile_digits_append n hsuffix]

theorem ofToken?_of_tells (h : Tells token v) (hfits : v.Fits) : ofToken? token = some v := by
  cases h with
  | @full vs suffix _ hvs hends =>
    have hparts : parts (vs ++ (v.render.toList ++ suffix)) = digits v.major :: digits v.minor ::
        Chars.pieces (· = '.') (digits v.patch ++ suffix) := by
      rw [toList_render, List.append_assoc, List.cons_append, List.append_assoc, List.cons_append,
        parts_marked hvs, pieces_digits_point, pieces_digits_point]
    have hpatch := head?_pieces_digits v.patch hends
    rw [ofToken?, ← parts, hparts]
    simp only [readWord?, Numeral.read?_digits hfits.major, Numeral.read?_digits hfits.minor]
    obtain ⟨part, hpart, hdigits⟩ := Option.map_eq_some_iff.mp hpatch
    simp [hpart, hdigits, Numeral.read?_digits hfits.patch]
  | @short vs major minor hvs =>
    have hparts : parts (vs ++ (digits major ++ '.' :: digits minor)) =
        [digits major, digits minor] := by
      rw [parts_marked hvs, pieces_digits_point, pieces_digits]
    rw [ofToken?, ← parts, hparts]
    simp only [readWord?, Numeral.read?_digits hfits.major, Numeral.read?_digits hfits.minor]
    rfl

/-! ## Texts -/

/-- The first token of a text with two numbers tells a version. -/
structure Told (text : String) (v : Version) : Prop where
  fits : v.Fits
  found : ∃ earlier token later, Chars.pieces separates text.toList = earlier ++ token :: later ∧
    (∀ t ∈ earlier, ¬ Numbered t) ∧ Tells token v

theorem ofText?_of_told (h : Told text v) : ofText? text = some v := by
  obtain ⟨earlier, token, later, hpieces, hearlier, htoken⟩ := h.found
  have hnone : earlier.findSome? ofToken? = none :=
    List.findSome?_eq_none_iff.mpr fun t ht => ofToken?_eq_none_iff.mpr (hearlier t ht)
  rw [ofText?, find?, hpieces, List.findSome?_append, hnone, Option.none_or, List.findSome?_cons,
    ofToken?_of_tells htoken h.fits]

/-- The text of a version is one token. -/
theorem told_render (h : v.Fits) : Told v.render v := by
  have hnone : ∀ c ∈ v.render.toList, separates c = false := by
    intro c hc
    have hdigit {n : Nat} (hc : c ∈ digits n) : separates c = false := by
      have hd := Numeral.isDigit_of_mem_digits hc
      have hparens : c ≠ '(' ∧ c ≠ ')' := by
        constructor <;> rintro rfl <;> cases hd
      simp [separates, Numeral.isBlank_of_isDigit hd, hparens]
    rw [toList_render] at hc
    simp only [List.mem_append, List.mem_cons] at hc
    rcases hc with hc | rfl | hc | rfl | hc
    · exact hdigit hc
    · decide
    · exact hdigit hc
    · decide
    · exact hdigit hc
  refine ⟨h, [], v.render.toList, [], Chars.pieces_of_forall hnone, List.forall_mem_nil _,
    ?_⟩
  have htells : Tells ([] ++ (v.render.toList ++ [])) v := .full v (List.forall_mem_nil _) (by simp)
  rwa [List.nil_append, List.append_nil] at htells

/-! ## The order of versions -/

/-- The first number in which two versions differ is smaller. -/
def Below (a b : Version) : Prop :=
  a.major < b.major ∨ a.major = b.major ∧
    (a.minor < b.minor ∨ a.minor = b.minor ∧ a.patch < b.patch)

theorem needsUpgrade_iff (a b : Version) : needsUpgrade a b = true ↔ a.Below b := by
  rw [needsUpgrade, beq_iff_eq, compare, Ordering.then_eq_lt, Ordering.then_eq_lt,
    Nat.compare_eq_lt, Nat.compare_eq_lt, Nat.compare_eq_lt, Nat.compare_eq_eq, Nat.compare_eq_eq,
    Below]

/-- The version that is found in a text is the one that its first token with two numbers tells; the
text of a version gives the version back; and of two texts the version of the first one needs an
upgrade to that of the second one exactly if it stands below it in the order of their numbers. -/
theorem ofText?_told :
    (∀ text v, Told text v → ofText? text = some v) ∧
    (∀ v : Version, v.Fits → ofText? v.render = some v) ∧
    ∀ s t a b, Told s a → Told t b → ∃ x y, ofText? s = some x ∧ ofText? t = some y ∧
      (needsUpgrade x y = true ↔ a.Below b) :=
  ⟨fun _ _ => ofText?_of_told, fun _ h => ofText?_of_told (told_render h), fun _ _ a b ha hb =>
    ⟨a, b, ofText?_of_told ha, ofText?_of_told hb, needsUpgrade_iff a b⟩⟩

/-- A date, a name and a number that is too large stand in front of the first version; the other one
has no third number. -/
theorem ofText?_told_nightly :
    Told "2024-05-01 wa 18446744073709551616.1 (v0.4.2-nightly.7)" ⟨0, 4, 2⟩ ∧
    Told "v1.12" ⟨1, 12, 0⟩ ∧ Fits ⟨0, 4, 2⟩ ∧
    ofText? "2024-05-01 wa 18446744073709551616.1 (v0.4.2-nightly.7)" = some ⟨0, 4, 2⟩ ∧
    ofText? (render ⟨0, 4, 2⟩) = some ⟨0, 4, 2⟩ ∧
    ∃ x y, ofText? "2024-05-01 wa 18446744073709551616.1 (v0.4.2-nightly.7)" = some x ∧
      ofText? "v1.12" = some y ∧ needsUpgrade x y = true := by
  have hfits : Fits ⟨0, 4, 2⟩ := ⟨by decide, by decide, by decide⟩
  have hmarks : ∀ c ∈ ['v'], c = 'v' := fun c => List.mem_singleton.mp
  have hfirst : Told "2024-05-01 wa 18446744073709551616.1 (v0.4.2-nightly.7)" ⟨0, 4, 2⟩ := by
    refine ⟨hfits, ["2024-05-01".toList, "wa".toList, "18446744073709551616.1".toList, []],
      "v0.4.2-nightly.7".toList, [[]], by decide, ?_, ?_⟩
    · simp only [List.forall_mem_cons, ← ofToken?_eq_none_iff]
      exact ⟨by decide, by decide, by decide, by decide, nofun⟩
    · exact @Tells.full ['v'] "-nightly.7".toList ⟨0, 4, 2⟩ hmarks fun c hc => by cases hc; rfl
  have hsecond : Told "v1.12" ⟨1, 12, 0⟩ :=
    ⟨⟨by decide, by decide, by decide⟩, [], "v1.12".toList, [], by decide, nofun,
      @Tells.short ['v'] 1 12 hmarks⟩
  obtain ⟨htold, hrender, hupgrade⟩ := ofText?_told
  obtain ⟨x, y, hx, hy, hbelow⟩ := hupgrade _ _ _ _ hfirst hsecond
  exact ⟨hfirst, hsecond, hfits, htold _ _ hfirst, hrender _ hfits, x, y, hx, hy,
    hbelow.mpr (.inl (by decide))⟩

end Server.Version

end AnalyzerClient
