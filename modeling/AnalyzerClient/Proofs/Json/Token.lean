import AnalyzerClient.Proofs.Json.Numeral
import AnalyzerClient.Proofs.Json.Quote
import AnalyzerClient.Proofs.Json.TooDeep

/-!
# The tokens of a text

Tokens are what a text is made of besides gaps. A reader that is given the characters of a number, a
word or a string reads the same whatever stands behind them, or reads something that never has a
value (`Token.steady_ofScalar`).
-/

namespace AnalyzerClient.Json

open Draft (ofScalar)
open Text.Numeral (hexValue? isHexDigit)

/-! ## Strings -/

/-- A part of a string as it is written: a character that stands for itself, or an escape. -/
inductive StringPart where
  | plain (c : Char) (h : 0x20 ≤ c.toNat ∧ c ≠ '"' ∧ c ≠ '\\')
  | short (c : Char) (h : c ∈ ['"', '\\', '/', 'b', 'f', 'n', 'r', 't'])
  | unicode (a b c d : Char) (h : ∀ x ∈ [a, b, c, d], isHexDigit x = true)

/-- The characters of a part. -/
def StringPart.chars : StringPart → List Char
  | .plain c _ => [c]
  | .short c _ => ['\\', c]
  | .unicode a b c d _ => ['\\', 'u', a, b, c, d]

/-- No digit of an escape is the end of a string or of another escape. -/
theorem ordinary_of_hexDigits {a b c d : Char} (h : ∀ x ∈ [a, b, c, d], isHexDigit x = true) :
    (a ≠ '\\' ∧ a ≠ '"') ∧ (b ≠ '\\' ∧ b ≠ '"') ∧ (c ≠ '\\' ∧ c ≠ '"') ∧ (d ≠ '\\' ∧ d ≠ '"') := by
  have hdigit : ∀ x ∈ [a, b, c, d], x ≠ '\\' ∧ x ≠ '"' := by
    intro x hx
    have hx := h x hx
    constructor <;> (rintro rfl; cases hx)
  simpa using hdigit

/-- A reader of the inside of a string reads the same units whatever stands behind it, and finds a
flaw always or never. -/
def Steady (read : List Char → StringText) : Prop :=
  ∃ units flawed, ∀ rest, ∃ flaw : Option Fault, flaw.isSome = flawed ∧
    read rest = ⟨units, flaw, .ok rest⟩

namespace Steady

variable {read : List Char → StringText}

theorem close : Steady .close := ⟨[], false, fun _ => ⟨none, rfl, rfl⟩⟩

theorem push (h : Steady read) (more : List Char) :
    Steady (fun rest => (read rest).push more) := by
  obtain ⟨units, flawed, h⟩ := h
  refine ⟨more ++ units, flawed, fun rest => ?_⟩
  obtain ⟨flaw, hflaw, hread⟩ := h rest
  exact ⟨flaw, hflaw, congrArg (StringText.push more) hread⟩

theorem flawed (h : Steady read) (fault : List Char → Fault) :
    Steady (fun rest => (read rest).flawed (fault rest)) := by
  obtain ⟨units, flawed, h⟩ := h
  refine ⟨units, true, fun rest => ?_⟩
  obtain ⟨flaw, -, hread⟩ := h rest
  exact ⟨some (fault rest), rfl, congrArg (StringText.flawed (fault rest)) hread⟩

theorem flawIf (h : Steady read) (high : Option Nat) (behind : List Char → List Char) :
    Steady (fun rest => Json.flawIf high (behind rest) (read rest)) := by
  cases high with
  | none => exact h
  | some n => exact h.flawed _

end Steady

theorem readString_short {c : Char} (h : c ∈ ['"', '\\', '/', 'b', 'f', 'n', 'r', 't']) :
    ∃ e : Char, ∀ high cs, readString .characters high ('\\' :: c :: cs) =
      flawIf high cs ((readString .characters none cs).push [e]) := by
  simp only [List.mem_cons, List.not_mem_nil, or_false] at h
  rcases h with rfl | rfl | rfl | rfl | rfl | rfl | rfl | rfl <;> exact ⟨_, fun _ _ => rfl⟩

theorem exists_hexQuad? {a b c d : Char} (h : ∀ x ∈ [a, b, c, d], isHexDigit x = true) :
    ∃ n, hexQuad? a b c d = some n := by
  have hvalue : ∀ x ∈ [a, b, c, d], ∃ n, hexValue? x = some n := fun x hx =>
    Option.isSome_iff_exists.mp (h x hx)
  obtain ⟨na, ha⟩ := hvalue a (by simp)
  obtain ⟨nb, hb⟩ := hvalue b (by simp)
  obtain ⟨nc, hc⟩ := hvalue c (by simp)
  obtain ⟨nd, hd⟩ := hvalue d (by simp)
  exact ⟨_, by rw [hexQuad?, ha, hb, hc, hd]; rfl⟩

/-- Inside of a string, nothing counts that stands behind it. -/
theorem steady_readString (parts : List StringPart) (high : Option Nat) :
    Steady fun rest =>
      readString .characters high (parts.flatMap StringPart.chars ++ '"' :: rest) := by
  induction parts generalizing high with
  | nil => exact Steady.close.flawIf high id
  | cons part parts ih =>
    simp only [List.flatMap_cons, List.append_assoc]
    cases part with
    | plain c h =>
      simp only [StringPart.chars, List.singleton_append, readString_plain h]
      exact ((ih none).push [c]).flawIf high _
    | short c h =>
      obtain ⟨e, hread⟩ := readString_short h
      simp only [StringPart.chars, List.cons_append, List.nil_append, hread]
      exact ((ih none).push [e]).flawIf high _
    | unicode a b c d h =>
      obtain ⟨n, hn⟩ := exists_hexQuad? h
      simp only [StringPart.chars, List.cons_append, List.nil_append, readString, hn]
      cases high with
      | some first =>
        cases isLowSurrogate n with
        | true => exact (ih none).push _
        | false => exact (ih none).flawed _
      | none =>
        cases isHighSurrogate n with
        | true => exact ih (some n)
        | false =>
          cases isLowSurrogate n with
          | true => exact (ih none).flawed _
          | false => exact (ih none).push _

/-- The text of a string is always the same, or there is always none. -/
theorem Steady.text {read : List Char → StringText} (h : Steady read) :
    (∃ s, ∀ rest, (read rest).rest = .ok rest ∧ (read rest).text .characters = .ok s) ∨
      ∀ rest, (read rest).rest = .ok rest ∧ ∃ f, (read rest).text .characters = .error f := by
  obtain ⟨units, flawed, h⟩ := h
  cases flawed with
  | true =>
    refine .inr fun rest => ?_
    obtain ⟨flaw, hflaw, hread⟩ := h rest
    obtain ⟨f, rfl⟩ := Option.isSome_iff_exists.mp hflaw
    rw [hread]
    exact ⟨rfl, f, rfl⟩
  | false =>
    refine .inl ⟨String.ofList units, fun rest => ?_⟩
    obtain ⟨flaw, hflaw, hread⟩ := h rest
    rw [Option.isSome_eq_false_iff, Option.isNone_iff_eq_none] at hflaw
    rw [hread, hflaw]
    exact ⟨rfl, rfl⟩

/-! ## Tokens -/

/-- The characters between values. -/
inductive Mark where
  | openArray
  | closeArray
  | openObject
  | closeObject
  | comma
  | colon
  deriving DecidableEq

/-- The character of a mark. -/
def Mark.char : Mark → Char
  | .openArray => '['
  | .closeArray => ']'
  | .openObject => '\x7b'
  | .closeObject => '\x7d'
  | .comma => ','
  | .colon => ':'

/-- What a text is made of. -/
inductive Token where
  | mark (m : Mark)
  | null
  | bool (b : Bool)
  | number (n : NumberToken)
  | string (parts : List StringPart)

namespace Token

/-- The characters of a token. -/
def chars : Token → List Char
  | .mark m => [m.char]
  | .null => ['n', 'u', 'l', 'l']
  | .bool true => ['t', 'r', 'u', 'e']
  | .bool false => ['f', 'a', 'l', 's', 'e']
  | .number n => n.chars
  | .string parts => '"' :: (parts.flatMap StringPart.chars ++ ['"'])

/-- Whether a token is a mark. -/
def isMark : Token → Bool
  | .mark _ => true
  | _ => false

/-- A token ends in front of these characters. -/
def Ends : Token → List Char → Prop
  | .number _, rest => NumberEnd rest
  | _, _ => True

/-- The first character of a token is no gap, and tells which mark it is. -/
theorem exists_cons (t : Token) :
    ∃ c cs, t.chars = c :: cs ∧ isGap c = false ∧ ∀ m : Mark, c = m.char → t = .mark m := by
  cases t with
  | mark m =>
    refine ⟨m.char, [], rfl, by cases m <;> rfl, fun m' h => ?_⟩
    cases m <;> cases m' <;> first | rfl | cases h
  | null => exact ⟨'n', _, rfl, rfl, fun m h => by cases m <;> cases h⟩
  | bool b => cases b <;> exact ⟨_, _, rfl, rfl, fun m h => by cases m <;> cases h⟩
  | number n =>
    obtain ⟨c, cs, hcs, hc⟩ := n.exists_cons
    refine ⟨c, cs, hcs, ?_, ?_⟩
    · rcases hc with rfl | hc
      · rfl
      · exact (isDigit_cases hc).1
    · rintro m rfl
      rcases hc with hc | hc <;> cases m <;> cases hc
  | string parts => exact ⟨'"', _, rfl, rfl, fun m h => by cases m <;> cases h⟩

/-- Only a string begins with a quote. -/
theorem exists_string {t : Token} {cs : List Char} (h : t.chars = '"' :: cs) :
    ∃ parts, t = .string parts := by
  cases t with
  | mark m => cases m <;> cases h
  | null => cases h
  | bool b => cases b <;> cases h
  | number n =>
    obtain ⟨c, tail, htail, hc⟩ := n.exists_cons
    rw [chars, htail] at h
    obtain ⟨rfl, -⟩ := List.cons.inj h
    rcases hc with hc | hc <;> cases hc
  | string parts => exact ⟨parts, rfl⟩

theorem chars_string_append (parts : List StringPart) (rest : List Char) :
    chars (.string parts) ++ rest = '"' :: (parts.flatMap StringPart.chars ++ '"' :: rest) := by
  simp [chars]

/-- A value without items and members is always read as the same draft, or always as one without a
value. -/
theorem steady_ofScalar (t : Token) (ht : t.isMark = false) :
    (∃ d, ∀ rest, t.Ends rest → ofScalar .characters (t.chars ++ rest) = (d, some rest)) ∨
      ∀ rest, t.Ends rest → (ofScalar .characters (t.chars ++ rest)).1.Worthless := by
  cases t with
  | mark m => cases ht
  | null => exact .inl ⟨.null, fun _ _ => rfl⟩
  | bool b => cases b <;> exact .inl ⟨_, fun _ _ => rfl⟩
  | number n =>
    have hread (rest : List Char) : ofScalar .characters (n.chars ++ rest) =
        Draft.ofNumber (n.chars ++ rest) := by
      obtain ⟨c, cs, hcs, hc⟩ := n.exists_cons
      rw [hcs]
      exact ofScalar_of_digit hc _
    cases hvalue : n.text.value? with
    | some v =>
      refine .inl ⟨.number v, fun rest hrest => ?_⟩
      rw [chars, hread, Draft.ofNumber, readNumber_append n hrest]
      simp only [hvalue]
    | none =>
      refine .inr fun rest hrest => ?_
      rw [chars, hread, Draft.ofNumber, readNumber_append n hrest]
      simp only [hvalue]
      exact ⟨_, rfl⟩
  | string parts =>
    have hread (rest : List Char) : ofScalar .characters (chars (.string parts) ++ rest) =
        Draft.ofString .characters (parts.flatMap StringPart.chars ++ '"' :: rest) := by
      rw [chars_string_append, ofScalar]
    rcases (steady_readString parts none).text with ⟨s, h⟩ | h
    · refine .inl ⟨.string s, fun rest _ => ?_⟩
      rw [hread, Draft.ofString, (h rest).1, (h rest).2]
      rfl
    · refine .inr fun rest _ => ?_
      obtain ⟨hrest, f, hf⟩ := h rest
      rw [hread, Draft.ofString, hrest, hf]
      exact ⟨f, rfl⟩

end Token

end AnalyzerClient.Json
