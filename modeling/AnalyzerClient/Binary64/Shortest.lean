import AnalyzerClient.Binary64

/-!
# The shortest decimal that reads back

The numbers that round to a given magnitude form an interval around its value. The shortest decimal
is the one with the fewest digits in that interval, and of those with equally many the nearest to
the value.
-/

namespace AnalyzerClient.Binary64

/-- A decimal: digits without a trailing zero, and the power of ten of the first of them. -/
structure Decimal where
  digits : List Char
  exponent : Int
  deriving DecidableEq, Repr

/-- The numbers that round to a magnitude: a closed or open interval, in quarters of the unit of its
significand. -/
structure Interval where
  low : Nat
  middle : Nat
  high : Nat
  closed : Bool
  deriving Repr

/-- The interval of a magnitude. Below a power of two the next number is only half as far away. -/
def interval (magnitude : Nat) : Interval :=
  let m := significand magnitude
  let gap := if m = hiddenBit && 2 * hiddenBit ≤ magnitude then 1 else 2
  ⟨4 * m - gap, 4 * m, 4 * m + 2, m % 2 == 0⟩

/-- The greatest `k` with `10 ^ k ≤ num / den`, for positive `num` and `den`. -/
def log10Ratio (num den : Nat) : Int :=
  if den ≤ num then ((Nat.toDigits 10 (num / den)).length : Int) - 1
  else
    let k := (Nat.toDigits 10 (den / num)).length - 1
    if den ≤ num * Nat.pow 10 k then -(k : Int) else -(k + 1 : Int)

/-- Of the multiples of `10 ^ k` next to the value of a magnitude, the nearest that rounds to it, as
a multiple. -/
def nearestMultiple? (magnitude : Nat) (k : Int) : Option Nat :=
  let i := interval magnitude
  -- A quarter of the unit is `n / d`, and `10 ^ k` is `p / q`.
  let (n, d) := scaled 1 2 (exponent magnitude - 2)
  let (p, q) := scaled 1 10 k
  let unit := p * d
  let inside (j : Nat) : Bool :=
    let x := j * unit
    let low := i.low * n * q
    let high := i.high * n * q
    if i.closed then low ≤ x && x ≤ high else low < x && x < high
  let middle := i.middle * n * q
  let below := middle / unit
  let above := below + 1
  match inside below, inside above with
  | true, true =>
    let left := middle - below * unit
    let right := above * unit - middle
    some (if left < right || (left == right && below % 2 == 0) then below else above)
  | true, false => some below
  | false, true => some above
  | false, false => none

/-- Drops the zeros at the end of a list of digits. -/
def dropTrailingZeros (ds : List Char) : List Char := (ds.reverse.dropWhile (· == '0')).reverse

/-- The shortest decimal with at least `n` digits, of the `fuel` next lengths. -/
def shortestFrom (magnitude : Nat) (top : Int) : (fuel n : Nat) → Decimal
  | 0, _ => ⟨['0'], 0⟩
  | fuel + 1, n =>
    let k := top - (n - 1 : Int)
    match nearestMultiple? magnitude k with
    | some j =>
      let ds := Nat.toDigits 10 j
      ⟨dropTrailingZeros ds, k + (ds.length : Int) - 1⟩
    | none => shortestFrom magnitude top fuel (n + 1)

/-- The shortest decimal of a positive magnitude; seventeen digits are always enough. -/
def shortest (magnitude : Nat) : Decimal :=
  let (n, d) := value magnitude
  shortestFrom magnitude (log10Ratio n d) 17 1

/-- How a decimal is written: the first digit's powers of ten that are written positionally, the
others get an exponent. -/
structure Layout where
  lowest : Int
  highest : Int

/-- A decimal with all its places. -/
def Decimal.positional (d : Decimal) : List Char :=
  if d.exponent < 0 then
    '0' :: '.' :: List.replicate (d.exponent.natAbs - 1) '0' ++ d.digits
  else
    let whole := d.exponent.natAbs + 1
    if d.digits.length ≤ whole then
      d.digits ++ List.replicate (whole - d.digits.length) '0' ++ ['.', '0']
    else d.digits.take whole ++ '.' :: d.digits.drop whole

/-- A decimal with one digit before the point and a signed exponent. -/
def Decimal.scientific (d : Decimal) : List Char :=
  let fraction := match d.digits.drop 1 with
    | [] => []
    | ds => '.' :: ds
  d.digits.take 1 ++ fraction ++ 'e' :: (if d.exponent < 0 then '-' else '+') ::
    Nat.toDigits 10 d.exponent.natAbs

/-- The text of a number: the shortest decimal, with at least one digit after the point when it is
written positionally. -/
def render (style : Layout) (x : Binary64) : List Char :=
  let body :=
    if x.magnitude = 0 then ['0', '.', '0']
    else
      let d := shortest x.magnitude
      if style.lowest ≤ d.exponent && d.exponent ≤ style.highest then d.positional else d.scientific
  if x.negative then '-' :: body else body

end AnalyzerClient.Binary64
