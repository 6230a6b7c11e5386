import AnalyzerClient.Json.Printer
import AnalyzerClient.Json.Lexeme
import AnalyzerClient.Proofs.Json.Shape
import Mathlib.Data.List.Induction

/-!
# Reading and writing numbers

A number is read as its parts up to its end (`readNumber_append`). The numeral of an integer is such
a number (`NumberToken.chars_ofInt`), and the number of its sign and its digits is the integer again
if it has at most 64 bits (`value?_numberText`). Every number that is read is in range
(`NumberText.inRange_of_value?`).
-/

namespace AnalyzerClient

namespace Text.Numeral

theorem isDigit_of_mem_digits {n : Nat} {c : Char} (h : c ∈ digits n) : isDigit c = true := by
  have hc := Nat.isDigit_of_mem_toDigits (by decide) (by decide) h
  simpa [isDigit, Char.isDigit, Char.le_def] using hc

theorem digits_ne_nil (n : Nat) : digits n ≠ [] := Nat.toDigits_ne_nil

theorem value_digits (n : Nat) : value (digits n) = n := Nat.ofDigitChars_ten_toDigits

/-- Only zero is written with a zero in front. -/
theorem digits_eq_zero_cons {n : Nat} {cs : List Char} (h : digits n = '0' :: cs) : cs = [] := by
  induction n using Nat.strongRecOn generalizing cs with
  | ind n ih =>
    by_cases hn : n < 10
    · rw [digits, Nat.toDigits_of_lt_base hn] at h
      exact (List.cons.inj h).2.symm
    · have hsplit : digits n = digits (n / 10) ++ [(n % 10).digitChar] :=
        Nat.toDigits_of_base_le (by decide) (Nat.le_of_not_lt hn)
      cases hfront : digits (n / 10) with
      | nil => exact absurd hfront (digits_ne_nil _)
      | cons c ds =>
        rw [hsplit, hfront, List.cons_append] at h
        obtain ⟨rfl, -⟩ := List.cons.inj h
        have hvalue := value_digits (n / 10)
        rw [hfront, ih (n / 10) (by omega) hfront] at hvalue
        have hzero : value ['0'] = 0 := rfl
        omega

theorem value_concat (ds : List Char) (c : Char) :
    value (ds ++ [c]) = 10 * value ds + digitValue c := by
  rw [value, List.foldl_append]; rfl

end Text.Numeral

namespace Json

open Text.Numeral (digits digitValue isDigit isDigit_of_mem_digits value)

variable {rest : List Char}

/-- No digit stands in front. -/
def NoDigit (rest : List Char) : Prop := ∀ c cs, rest = c :: cs → isDigit c = false

/-- No character stands in front that could belong to a number before it. -/
def NumberEnd (rest : List Char) : Prop :=
  ∀ c cs, rest = c :: cs → isDigit c = false ∧ c ≠ '.' ∧ c ≠ 'e' ∧ c ≠ 'E'

theorem numberEnd_nil : NumberEnd [] := nofun

theorem NumberEnd.noDigit (h : NumberEnd rest) : NoDigit rest := fun c cs hcs => (h c cs hcs).1

theorem noDigit_cons {c : Char} (h : isDigit c = false) : NoDigit (c :: rest) := by
  intro a cs hcs
  obtain ⟨rfl, -⟩ := List.cons.inj hcs
  exact h

/-! ## Numbers as they are written -/

/-- One or more digits. -/
structure Digits where
  chars : List Char
  ne_nil : chars ≠ []
  all_digits : ∀ c ∈ chars, isDigit c = true

/-- An exponent as it is written. -/
structure ExponentToken where
  capital : Bool
  /-- The sign, and whether it is a minus. -/
  sign : Option Bool
  digits : Digits

/-- A number as it is written. -/
structure NumberToken where
  negative : Bool
  whole : Digits
  /-- A zero stands alone. -/
  zero_alone : ∀ cs, whole.chars = '0' :: cs → cs = []
  fraction : Option Digits
  exponent : Option ExponentToken

/-- The sign of an exponent. -/
def signChars : Option Bool → List Char
  | none => []
  | some true => ['-']
  | some false => ['+']

/-- What stands behind the digits of the whole. -/
def fractionChars : Option Digits → List Char
  | none => []
  | some ds => '.' :: ds.chars

/-- What stands behind the fraction. -/
def exponentChars : Option ExponentToken → List Char
  | none => []
  | some e => (if e.capital then 'E' else 'e') :: (signChars e.sign ++ e.digits.chars)

/-- The characters of a number. -/
def NumberToken.chars (n : NumberToken) : List Char :=
  (if n.negative then ['-'] else []) ++
    (n.whole.chars ++ (fractionChars n.fraction ++ exponentChars n.exponent))

/-- The parts of a number. -/
def NumberToken.text (n : NumberToken) : NumberText where
  negative := n.negative
  whole := n.whole.chars
  fraction := n.fraction.map Digits.chars
  exponent := n.exponent.map fun e => (e.sign == some true, e.digits.chars)

/-! ## Reading -/

-- The equations are generated here, once, so that no proof waits for another to do it.
attribute [grind =] signChars fractionChars exponentChars readDigits readFraction readExponent
  readNumber

theorem Digits.exists_cons (ds : Digits) : ∃ c cs, ds.chars = c :: cs ∧ isDigit c = true := by
  cases hds : ds.chars with
  | nil => exact absurd hds ds.ne_nil
  | cons c cs => exact ⟨c, cs, rfl, ds.all_digits c (by rw [hds]; exact List.mem_cons_self)⟩

theorem readDigits_append (ds : Digits) (hrest : NoDigit rest) :
    readDigits (ds.chars ++ rest) = .ok (ds.chars, rest) := by
  obtain ⟨d, cs, hcs, hd⟩ := ds.exists_cons
  have hall : ∀ c ∈ cs, isDigit c = true := fun c hc =>
    ds.all_digits c (by rw [hcs]; exact List.mem_cons_of_mem _ hc)
  have htake : rest.takeWhile isDigit = [] := by
    cases rest with
    | nil => rfl
    | cons c cs => rw [List.takeWhile_cons, hrest c cs rfl]; rfl
  have hdrop : rest.dropWhile isDigit = rest := by
    cases rest with
    | nil => rfl
    | cons c cs => rw [List.dropWhile_cons, hrest c cs rfl]; rfl
  rw [hcs, List.cons_append, readDigits, if_pos hd, List.takeWhile_append_of_pos hall, htake,
    List.dropWhile_append_of_pos hall, hdrop, List.append_nil]

theorem readWhole_append (ds : Digits) (hzero : ∀ cs, ds.chars = '0' :: cs → cs = [])
    (hrest : NoDigit rest) : readWhole (ds.chars ++ rest) = .ok (ds.chars, rest) := by
  have hdigits := readDigits_append ds hrest
  unfold readWhole
  split
  · next c cs hcs =>
    obtain ⟨d, tail, htail, -⟩ := ds.exists_cons
    rw [htail, List.cons_append] at hcs
    obtain ⟨rfl, hrest'⟩ := List.cons.inj hcs
    obtain rfl := hzero tail htail
    rw [if_neg (by rw [hrest c cs hrest']; decide), htail]
    exact congrArg (fun r => Except.ok (['0'], r)) hrest'.symm
  · exact hdigits

theorem readFraction_append (f : Option Digits) (hrest : NoDigit rest)
    (hpoint : ∀ cs, rest ≠ '.' :: cs) :
    readFraction (fractionChars f ++ rest) = .ok (f.map Digits.chars, rest) := by
  cases f with
  | none =>
    unfold readFraction
    split
    · next cs hcs => exact absurd hcs (hpoint cs)
    · rfl
  | some ds =>
    rw [fractionChars, List.cons_append, readFraction, readDigits_append ds hrest]
    rfl

theorem readExponent_append (e : Option ExponentToken) (hrest : NumberEnd rest) :
    readExponent (exponentChars e ++ rest) =
      .ok (e.map fun e => (e.sign == some true, e.digits.chars), rest) := by
  cases e with
  | none =>
    cases rest with
    | nil => rfl
    | cons c cs =>
      obtain ⟨-, -, he, hE⟩ := hrest c cs rfl
      simp [exponentChars, readExponent, he, hE]
  | some e =>
    obtain ⟨capital, sign, ds⟩ := e
    have hdigits := readDigits_append ds hrest.noDigit
    cases sign with
    | some negative =>
      have hread (cs : List Char) : readExponent ((if capital then 'E' else 'e') ::
          (signChars (some negative) ++ cs)) =
            (readDigits cs).map fun p => (some (negative, p.1), p.2) := by
        cases capital <;> cases negative <;> rfl
      rw [exponentChars, List.cons_append, List.append_assoc, hread, hdigits]
      cases negative <;> rfl
    | none =>
      obtain ⟨d, tail, htail, hd⟩ := ds.exists_cons
      have hread (cs : List Char) : readExponent ((if capital then 'E' else 'e') :: d :: cs) =
          (readDigits (d :: cs)).map fun p => (some (false, p.1), p.2) := by
        have hplus : d ≠ '+' := by rintro rfl; cases hd
        have hminus : d ≠ '-' := by rintro rfl; cases hd
        cases capital <;> simp [readExponent, hplus, hminus]
      rw [htail, List.cons_append] at hdigits
      rw [exponentChars, signChars, List.nil_append, htail, List.cons_append, List.cons_append,
        hread, hdigits, ← htail]
      rfl

theorem exponentChars_append (e : Option ExponentToken) (hrest : NumberEnd rest) :
    NoDigit (exponentChars e ++ rest) ∧ ∀ cs, exponentChars e ++ rest ≠ '.' :: cs := by
  cases e with
  | none => exact ⟨hrest.noDigit, fun cs hcs => (hrest _ _ hcs).2.1 rfl⟩
  | some e =>
    cases hcapital : e.capital <;> simp [exponentChars, hcapital] <;> exact noDigit_cons rfl

/-- A number is read up to its end. -/
theorem readNumber_append (n : NumberToken) (hrest : NumberEnd rest) :
    readNumber (n.chars ++ rest) = .ok (n.text, rest) := by
  obtain ⟨hexponent, hpoint⟩ := exponentChars_append n.exponent hrest
  have hfraction : NoDigit (fractionChars n.fraction ++ (exponentChars n.exponent ++ rest)) := by
    cases n.fraction with
    | none => exact hexponent
    | some ds => exact noDigit_cons rfl
  have hwhole := readWhole_append n.whole n.zero_alone hfraction
  have hparts := readFraction_append n.fraction hexponent hpoint
  have hend := readExponent_append n.exponent hrest
  have htext : n.text = { n.text with negative := n.negative } := rfl
  rw [NumberToken.chars, htext]
  cases n.negative with
  | true =>
    rw [if_pos rfl, List.append_assoc, List.append_assoc, List.append_assoc, List.singleton_append]
    simp only [readNumber, hwhole, hparts, hend, bind, Except.bind]
    rfl
  | false =>
    obtain ⟨d, tail, htail, hd⟩ := n.whole.exists_cons
    have hsign : ∀ cs, n.whole.chars ++ (fractionChars n.fraction ++
        (exponentChars n.exponent ++ rest)) ≠ '-' :: cs := by
      intro cs hcs
      rw [htail] at hcs
      rw [(List.cons.inj hcs).1] at hd
      cases hd
    rw [if_neg nofun, List.nil_append, List.append_assoc, List.append_assoc]
    simp only [readNumber, hwhole, hparts, hend, bind, Except.bind]
    rfl

/-- The first character of a number. -/
theorem NumberToken.exists_cons (n : NumberToken) :
    ∃ c cs, n.chars = c :: cs ∧ (c = '-' ∨ isDigit c = true) := by
  obtain ⟨d, tail, htail, hd⟩ := n.whole.exists_cons
  cases hnegative : n.negative with
  | true => exact ⟨'-', _, by rw [chars, hnegative]; rfl, .inl rfl⟩
  | false => exact ⟨d, _, by rw [chars, hnegative, htail]; rfl, .inr hd⟩

/-! ## Integers -/

/-- The token of an integer. -/
def NumberToken.ofInt (n : Int) : NumberToken where
  negative := decide (n < 0)
  whole := ⟨digits n.natAbs, Text.Numeral.digits_ne_nil _, fun _ hc => isDigit_of_mem_digits hc⟩
  zero_alone _ := Text.Numeral.digits_eq_zero_cons
  fraction := none
  exponent := none

theorem NumberToken.chars_ofInt (n : Int) :
    (ofInt n).chars = (Text.Numeral.renderInt n).toList := by
  cases n with
  | ofNat n =>
    have htext : (Text.Numeral.renderInt (.ofNat n)).toList = digits n := String.toList_ofList
    have hsign : ¬ (n : Int) < 0 := Int.not_lt.mpr (Int.natCast_nonneg n)
    rw [htext]
    simp [ofInt, chars, fractionChars, exponentChars, hsign]
  | negSucc n =>
    have htext : (Text.Numeral.renderInt (.negSucc n)).toList = '-' :: digits (n + 1) :=
      String.toList_ofList
    rw [htext]
    simp [ofInt, chars, fractionChars, exponentChars]

theorem readNumber_renderInt (n : Int) (hrest : NumberEnd rest) :
    readNumber ((Text.Numeral.renderInt n).toList ++ rest) =
      .ok (⟨decide (n < 0), digits n.natAbs, none, none⟩, rest) := by
  rw [← NumberToken.chars_ofInt, readNumber_append _ hrest]
  rfl

/-! ## Values -/

theorem foldl_pushWhole {ds : List Char} (h : value ds < Word.count64) :
    ds.foldl Significand.pushWhole ⟨0, 0, false⟩ = ⟨value ds, 0, false⟩ := by
  induction ds using List.reverseRecOn with
  | nil => rfl
  | append_singleton ds c ih =>
    rw [Text.Numeral.value_concat] at h ⊢
    rw [List.foldl_append, ih (by omega)]
    simp [Significand.pushWhole, h]

/-- An integer of at most 64 bits is the number of its sign and its digits. -/
theorem value?_numberText {n : Int} (h : (Number.int n).InRange) :
    NumberText.value? ⟨decide (n < 0), digits n.natAbs, none, none⟩ = some (.int n) := by
  obtain ⟨hlow, hhigh⟩ := h
  have hwords : Word.half64 < Word.count64 := by decide
  have hlt : n.natAbs < Word.count64 := by omega
  have hfold : (digits n.natAbs).foldl Significand.pushWhole ⟨0, 0, false⟩ =
      ⟨n.natAbs, 0, false⟩ := by
    rw [foldl_pushWhole (by rw [Text.Numeral.value_digits]; exact hlt), Text.Numeral.value_digits]
  simp only [NumberText.value?, hfold]
  by_cases hn : n < 0
  · have hpos : 0 < n.natAbs := by omega
    have hle : n.natAbs ≤ Word.half64 := by omega
    have habs : -(n.natAbs : Int) = n := by omega
    rw [decide_eq_true hn, decide_eq_true hpos, decide_eq_true hle, habs]
    rfl
  · have habs : (n.natAbs : Int) = n := by omega
    rw [decide_eq_false hn, habs]
    rfl

theorem digits_foldl_pushWhole_lt {s : Significand} (h : s.digits < Word.count64)
    (ds : List Char) : (ds.foldl Significand.pushWhole s).digits < Word.count64 := by
  induction ds generalizing s with
  | nil => exact h
  | cons c ds ih =>
    refine ih ?_
    unfold Significand.pushWhole
    dsimp only
    split
    · exact h
    · split
      · assumption
      · exact h

theorem NumberText.inRange_of_value? {t : NumberText} {m : Number} (h : t.value? = some m) :
    m.InRange := by
  have hdigits := digits_foldl_pushWhole_lt (s := ⟨0, 0, false⟩) (by decide) t.whole
  have hfloat {s : Significand} {e : Option (Bool × List Char)}
      (h : (s.magnitude? e).map (fun m => Number.float ⟨t.negative, m⟩) = some m) : m.InRange := by
    obtain ⟨x, -, rfl⟩ := Option.map_eq_some_iff.mp h
    exact trivial
  unfold NumberText.value? at h
  dsimp only at h
  split at h
  · split at h
    · cases h
      constructor <;> omega
    · split at h
      · next hneg =>
        cases h
        simp only [Bool.and_eq_true, decide_eq_true_eq] at hneg
        constructor <;> omega
      · exact hfloat h
  · exact hfloat h

end Json

end AnalyzerClient
