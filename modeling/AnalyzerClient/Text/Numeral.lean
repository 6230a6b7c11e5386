import AnalyzerClient.Word

/-!
# Numerals

Reading and writing natural numbers, in decimal and in hexadecimal.
-/

namespace AnalyzerClient.Text.Numeral

/-- The value of a digit. -/
def digitValue (c : Char) : Nat := c.toNat - 48

/-- The number that a list of digits denotes, the most significant first. -/
def value (digits : List Char) : Nat := digits.foldl (fun n c => 10 * n + digitValue c) 0

/-- The digits of a number, without leading zeros. -/
def digits (n : Nat) : List Char := Nat.toDigits 10 n

/-- The numeral of a number. -/
def render (n : Nat) : String := String.ofList (digits n)

/-- The numeral of an integer, with a sign in front when it is negative. -/
def renderInt : Int → String
  | .ofNat n => render n
  | .negSucc n => String.ofList ('-' :: digits (n + 1))

/-- A digit is one of the ten ASCII digits. -/
def isDigit (c : Char) : Bool := '0' ≤ c && c ≤ '9'

/-- The digits of an unsigned numeral, after the `+` that may stand in front. -/
def unsigned : List Char → List Char
  | '+' :: s => s
  | s => s

/-- Reads an unsigned numeral below `bound`: digits only, at least one, and a `+` may stand in
front. -/
def read? (bound : Nat) (s : List Char) : Option Nat :=
  let ds := unsigned s
  if ds.isEmpty || !ds.all isDigit then none
  else if value ds < bound then some (value ds) else none

/-- Reads an unsigned numeral of 64 bits. -/
def readWord? (s : List Char) : Option Nat := read? Word.count64 s

/-- The value of a hexadecimal digit. -/
def hexValue? (c : Char) : Option Nat :=
  if '0' ≤ c && c ≤ '9' then some (c.toNat - 48)
  else if 'a' ≤ c && c ≤ 'f' then some (c.toNat - 87)
  else if 'A' ≤ c && c ≤ 'F' then some (c.toNat - 55)
  else none

/-- Whether a character is a hexadecimal digit. -/
def isHexDigit (c : Char) : Bool := (hexValue? c).isSome

/-- The number that a list of hexadecimal digits denotes, the most significant first. -/
def hex? (digits : List Char) : Option Nat :=
  if digits.isEmpty then none
  else digits.foldlM (fun n c => (hexValue? c).map (16 * n + ·)) 0

end AnalyzerClient.Text.Numeral
