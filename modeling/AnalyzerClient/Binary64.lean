/-!
# Binary floating-point numbers of 64 bits

A finite number is its sign and the bit pattern of its magnitude. Every operation computes the exact
rational result and rounds it to the nearest number, a tie to the even pattern. A magnitude at or
beyond `Binary64.infinity` stands for a result that is too large.
-/

namespace AnalyzerClient

/-- A floating-point number: its sign and the bit pattern of its magnitude. -/
structure Binary64 where
  negative : Bool
  magnitude : Nat
  deriving DecidableEq, Repr, Inhabited

namespace Binary64

/-- The weight of the first bit of the significand of a normal number, which the pattern leaves out.
-/
abbrev hiddenBit : Nat := 0x10000000000000

/-- The first bit pattern that is no finite magnitude. -/
def infinity : Nat := 0x7FF * hiddenBit

/-- The significand of a magnitude. -/
def significand (magnitude : Nat) : Nat :=
  if magnitude < hiddenBit then magnitude else hiddenBit + magnitude % hiddenBit

/-- The power of two by which the significand of a magnitude is multiplied. -/
def exponent (magnitude : Nat) : Int :=
  if magnitude < hiddenBit then -1074 else (magnitude / hiddenBit : Nat) - 1075

/-- `n * base ^ k` as a fraction. -/
def scaled (n base : Nat) (k : Int) : Nat × Nat :=
  if k < 0 then (n, Nat.pow base k.natAbs) else (n * Nat.pow base k.natAbs, 1)

/-- The value of a magnitude as a fraction. -/
def value (magnitude : Nat) : Nat × Nat := scaled (significand magnitude) 2 (exponent magnitude)

/-- The quotient of two numbers, rounded to the nearest integer and a tie to the even one. -/
def roundDiv (num den : Nat) : Nat :=
  let q := num / den
  let r := num % den
  if 2 * r < den then q else if den < 2 * r then q + 1 else q + q % 2

/-- The greatest `k` with `2 ^ k ≤ num / den`, for positive `num` and `den`. -/
def log2Ratio (num den : Nat) : Int :=
  let k : Int := (Nat.log2 num : Int) - (Nat.log2 den : Int)
  let (n, d) := scaled num 2 (-k)
  if d * den ≤ n then k else k - 1

/-- The magnitude nearest to a fraction. -/
def ofRatio (num den : Nat) : Nat :=
  if num = 0 then 0
  else
    let e := max (log2Ratio num den - 52) (-1074)
    let (n, d) := scaled num 2 (-e)
    min infinity ((e + 1074).natAbs * hiddenBit + roundDiv n (d * den))

/-- The product of two magnitudes. -/
def mul (a b : Nat) : Nat :=
  let (n, d) := value a
  let (n', d') := value b
  ofRatio (n * n') (d * d')

/-- The quotient of two magnitudes, the second of them positive. -/
def div (a b : Nat) : Nat :=
  let (n, d) := value a
  let (n', d') := value b
  ofRatio (n * d') (d * n')

/-- The greatest power of ten that is finite. -/
def maxPower : Nat := 308

/-- The magnitude nearest to a power of ten. -/
def powerOfTen (k : Nat) : Nat := ofRatio (Nat.pow 10 k) 1

/-- Multiplies a magnitude by `10 ^ k` in steps of at most `10 ^ maxPower`, each of them rounded;
the result is `none` when it is too large. At most `steps` steps divide by the greatest power. -/
def scaleByTen : (steps : Nat) → (magnitude : Nat) → (k : Int) → Option Nat
  | steps, magnitude, k =>
    if k.natAbs ≤ maxPower then
      if k < 0 then some (div magnitude (powerOfTen k.natAbs))
      else
        let product := mul magnitude (powerOfTen k.natAbs)
        if product < infinity then some product else none
    else if magnitude = 0 then some 0
    else if 0 ≤ k then none
    else
      match steps with
      | 0 => some 0
      | steps + 1 => scaleByTen steps (div magnitude (powerOfTen maxPower)) (k + maxPower)

/-- The magnitude of `n * 10 ^ k`: first `n` is rounded, then the result is scaled. -/
def ofDecimal? (n : Nat) (k : Int) : Option Nat :=
  scaleByTen (k.natAbs / maxPower + 1) (ofRatio n 1) k

end Binary64

end AnalyzerClient
