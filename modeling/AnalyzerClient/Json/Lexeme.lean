import AnalyzerClient.Json.Fault
import AnalyzerClient.Json.Value
import AnalyzerClient.Text.Numeral
import AnalyzerClient.Text.Utf8
import AnalyzerClient.Word

/-!
# Numbers, words and strings of JSON

Each reader is given the characters from the lexeme on and gives back those behind it. A number may
be well-formed but too large, and a string may be well-formed but hold half of a surrogate pair;
such a lexeme can be skipped but has no value.
-/

namespace AnalyzerClient.Json

open AnalyzerClient.Text

/-! ## Units -/

/-- What the characters that a reader is given stand for. -/
inductive Units where
  /-- The characters of a text. -/
  | characters
  /-- Octets: what stands between quotes is a text only if they are well-formed. -/
  | octets
  deriving DecidableEq, Repr

namespace Units

/-- How many octets a unit stands for. -/
def size : Units → Char → Nat
  | .characters, c => c.utf8Size
  | .octets, _ => 1

/-- The units of a character. -/
def ofChar : Units → Char → List Char
  | .characters, c => [c]
  | .octets, c => (String.utf8EncodeChar c).map fun b => Char.ofNat b.toNat

/-- The text that units stand for. -/
def text? : Units → List Char → Option String
  | .characters, cs => some (String.ofList cs)
  | .octets, cs => Utf8.decode? (cs.map fun c => UInt8.ofNat c.toNat)

end Units

/-! ## Gaps and words -/

/-- The characters that may stand between lexemes. -/
def isGap (c : Char) : Bool := c = ' ' || c = '\n' || c = '\t' || c = '\r'

/-- Without the gap in front. -/
def skipGap (cs : List Char) : List Char := cs.dropWhile isGap

/-- Reads the rest of a word. -/
def readWord : (word cs : List Char) → Except Fault (List Char)
  | [], cs => .ok cs
  | _ :: _, [] => .error ⟨.ended, 0⟩
  | w :: ws, c :: cs => if c = w then readWord ws cs else .error ⟨.malformed, cs.length⟩

/-! ## Numbers -/

/-- The parts of a number as it is written. -/
structure NumberText where
  negative : Bool
  whole : List Char
  fraction : Option (List Char)
  /-- Whether the exponent is negative, and its digits. -/
  exponent : Option (Bool × List Char)
  deriving Repr

/-- One or more digits. -/
def readDigits (cs : List Char) : Except Fault (List Char × List Char) :=
  match cs with
  | [] => .error ⟨.ended, 0⟩
  | c :: rest =>
    if Numeral.isDigit c then
      .ok (c :: rest.takeWhile Numeral.isDigit, rest.dropWhile Numeral.isDigit)
    else .error ⟨.malformed, rest.length⟩

/-- The digits before the point: a zero stands alone. -/
def readWhole (cs : List Char) : Except Fault (List Char × List Char) :=
  match cs with
  | '0' :: c :: rest =>
    if Numeral.isDigit c then .error ⟨.malformed, rest.length⟩ else .ok (['0'], c :: rest)
  | cs => readDigits cs

/-- The digits behind a point, if there is one. -/
def readFraction (cs : List Char) : Except Fault (Option (List Char) × List Char) :=
  match cs with
  | '.' :: rest => (readDigits rest).map fun (ds, rest) => (some ds, rest)
  | cs => .ok (none, cs)

/-- The exponent, if there is one. -/
def readExponent (cs : List Char) :
    Except Fault (Option (Bool × List Char) × List Char) :=
  match cs with
  | c :: rest =>
    if c = 'e' || c = 'E' then
      let (negative, rest) := match rest with
        | '+' :: rest => (false, rest)
        | '-' :: rest => (true, rest)
        | rest => (false, rest)
      (readDigits rest).map fun (ds, rest) => (some (negative, ds), rest)
    else .ok (none, cs)
  | [] => .ok (none, [])

/-- Reads a number. -/
def readNumber (cs : List Char) : Except Fault (NumberText × List Char) := do
  let (negative, cs) := match cs with
    | '-' :: cs => (true, cs)
    | cs => (false, cs)
  let (whole, cs) ← readWhole cs
  let (fraction, cs) ← readFraction cs
  let (exponent, cs) ← readExponent cs
  return (⟨negative, whole, fraction, exponent⟩, cs)

/-- The decimal significand of a number that is not an integer of 64 bits: digits are taken in as
long as the significand fits into 64 bits. -/
structure Significand where
  digits : Nat
  /-- The power of ten that it is multiplied by. -/
  scale : Int
  /-- Whether a digit was left out. -/
  full : Bool

/-- Takes in a digit before the point. -/
def Significand.pushWhole (s : Significand) (c : Char) : Significand :=
  let n := 10 * s.digits + Numeral.digitValue c
  if s.full then { s with scale := s.scale + 1 }
  else if n < Word.count64 then { s with digits := n }
  else { s with scale := s.scale + 1, full := true }

/-- Takes in a digit behind the point. -/
def Significand.pushFraction (s : Significand) (c : Char) : Significand :=
  let n := 10 * s.digits + Numeral.digitValue c
  if s.full then s
  else if n < Word.count64 then { s with digits := n, scale := s.scale - 1 }
  else { s with full := true }

/-- The magnitude of a number with a significand and an exponent, unless it is too large. An
exponent beyond 31 bits makes every number zero or too large. -/
def Significand.magnitude? (s : Significand) (exponent : Option (Bool × List Char)) : Option Nat :=
  match exponent with
  | none => Binary64.ofDecimal? s.digits s.scale
  | some (negative, ds) =>
    let k := Numeral.value ds
    if k < Word.half32 then
      Binary64.ofDecimal? s.digits (if negative then s.scale - k else s.scale + k)
    else if s.digits = 0 || negative then some 0
    else none

/-- The value of a number, unless it is too large. Without fraction and exponent it is an integer if
it fits into 64 bits, and negative zero is a floating-point number. -/
def NumberText.value? (t : NumberText) : Option Number :=
  let s := t.whole.foldl Significand.pushWhole ⟨0, 0, false⟩
  match t.fraction, t.exponent with
  | none, none =>
    if !s.full && !t.negative then some (.int s.digits)
    else if !s.full && 0 < s.digits && s.digits ≤ Word.half64 then some (.int (-(s.digits : Int)))
    else (s.magnitude? none).map fun m => .float ⟨t.negative, m⟩
  | fraction, exponent =>
    let s := (fraction.getD []).foldl Significand.pushFraction { s with full := false }
    (s.magnitude? exponent).map fun m => .float ⟨t.negative, m⟩

/-! ## Strings -/

/-- The value of four hexadecimal digits. -/
def hexQuad? (a b c d : Char) : Option Nat := do
  return 4096 * (← Numeral.hexValue? a) + 256 * (← Numeral.hexValue? b) +
    16 * (← Numeral.hexValue? c) + (← Numeral.hexValue? d)

/-- The character of an escape other than `u`. -/
def unescape? (c : Char) : Option Char :=
  if c = '"' || c = '\\' || c = '/' then some c
  else if c = 'b' then some '\x08'
  else if c = 'f' then some '\x0c'
  else if c = 'n' then some '\n'
  else if c = 'r' then some '\r'
  else if c = 't' then some '\t'
  else none

/-- How many units are left when so many octets are passed. -/
def leftAfterOctets (u : Units) : (octets : Nat) → List Char → Nat
  | _, [] => 0
  | octets, c :: cs =>
    if octets = 0 then cs.length + 1 else leftAfterOctets u (octets - u.size c) cs

/-- What is read of a string behind its opening quote: the units of its text, the first flaw, and
what stands behind it unless it is at fault. -/
structure StringText where
  units : List Char
  flaw : Option Fault
  rest : Except Fault (List Char)

namespace StringText

/-- A string that ends here. -/
def close (rest : List Char) : StringText := ⟨[], none, .ok rest⟩

/-- A string that is at fault here. -/
def stop (f : Fault) : StringText := ⟨[], none, .error f⟩

/-- Units in front of the others. -/
def push (units : List Char) (t : StringText) : StringText := { t with units := units ++ t.units }

/-- A flaw in front of the others. -/
def flawed (f : Fault) (t : StringText) : StringText := { t with flaw := some f }

/-- The text of a string, or what is wrong with it first. Whether octets are well-formed is seen at
the closing quote. -/
def text (u : Units) (t : StringText) : Except Fault String :=
  match t.flaw, t.rest with
  | some f, _ => .error f
  | none, .error f => .error f
  | none, .ok rest =>
    match u.text? t.units with
    | some s => .ok s
    | none => .error ⟨.malformed, rest.length⟩

end StringText

/-- A first half of a surrogate pair. -/
def isHighSurrogate (n : Nat) : Bool := 0xD800 ≤ n && n < 0xDC00

/-- A second half of a surrogate pair. -/
def isLowSurrogate (n : Nat) : Bool := 0xDC00 ≤ n && n < 0xE000

/-- The character of a surrogate pair. -/
def ofSurrogates (high low : Nat) : Char :=
  Char.ofNat (0x10000 + 1024 * (high - 0xD800) + (low - 0xDC00))

/-- A first half of a surrogate pair that something else than the second half follows is a flaw;
`cs` is the text behind that. -/
def flawIf (high : Option Nat) (cs : List Char) (t : StringText) : StringText :=
  if high.isSome then t.flawed ⟨.malformed, cs.length⟩ else t

/-- Reads a string behind its opening quote. When the first half of a surrogate pair was read
before, it is `high`, and the second half must follow. -/
def readString (u : Units) (high : Option Nat) : List Char → StringText
  | [] => .stop ⟨.ended, 0⟩
  | '"' :: cs => flawIf high cs (.close cs)
  | '\\' :: [] => .stop ⟨.ended, 0⟩
  | '\\' :: 'u' :: a :: b :: c :: d :: cs =>
    match hexQuad? a b c d with
    | none => .stop ⟨.malformed, leftAfterOctets u 4 (a :: b :: c :: d :: cs)⟩
    | some n =>
      match high with
      | some h =>
        if isLowSurrogate n then (readString u none cs).push (u.ofChar (ofSurrogates h n))
        else (readString u none cs).flawed ⟨.malformed, cs.length⟩
      | none =>
        if isHighSurrogate n then readString u (some n) cs
        else if isLowSurrogate n then (readString u none cs).flawed ⟨.malformed, cs.length⟩
        else (readString u none cs).push (u.ofChar (Char.ofNat n))
  | '\\' :: 'u' :: cs =>
    if cs.foldl (fun n c => n + u.size c) 0 < 4 then .stop ⟨.ended, 0⟩
    else .stop ⟨.malformed, leftAfterOctets u 4 cs⟩
  | '\\' :: c :: cs =>
    match unescape? c with
    | none => flawIf high cs (.stop ⟨.malformed, cs.length⟩)
    | some c => flawIf high cs ((readString u none cs).push (u.ofChar c))
  | c :: cs =>
    if c.toNat < 0x20 then flawIf high cs (.stop ⟨.malformed, cs.length⟩)
    else flawIf high cs ((readString u none cs).push [c])

end AnalyzerClient.Json
