import AnalyzerClient.Text.Numeral

/-!
# Punycode

A text of any characters is written in ASCII: first its ASCII characters, then, behind a hyphen, a
list of numbers that say which other characters are put where. A number is written in digits of
changing worth, the least significant first; the digit that is less than the threshold of its place
is the last one. The thresholds follow the numbers that were written before.
-/

namespace AnalyzerClient.Uri.Punycode

/-- How many digits there are. -/
def base : Nat := 36

/-- The least and the greatest threshold. -/
def leastThreshold : Nat := 1

@[inherit_doc leastThreshold] def greatestThreshold : Nat := 26

/-- The bias of the thresholds of the first number. -/
def firstBias : Nat := 72

/-- The first code point behind ASCII. -/
def firstCode : Nat := 0x80

/-- Whether a character is of ASCII. -/
def isBasic (c : Char) : Bool := c.toNat < firstCode

/-- The threshold of a place of a number. -/
def threshold (bias place : Nat) : Nat :=
  max leastThreshold (min greatestThreshold (base * (place + 1) - bias))

/-- The character of a digit. -/
def digitChar (digit : Nat) : Char := Char.ofNat (if digit < 26 then 97 + digit else 22 + digit)

/-- The digit of a character. -/
def digit? (c : Char) : Option Nat :=
  if 'a' ≤ c && c ≤ 'z' then some (c.toNat - 97)
  else if 'A' ≤ c && c ≤ 'Z' then some (c.toNat - 65)
  else if '0' ≤ c && c ≤ '9' then some (c.toNat - 22)
  else none

/-- The bias that belongs to a number which was scaled down. -/
def biasOf (n : Nat) : Nat :=
  if (base - leastThreshold) * greatestThreshold / 2 < n then
    base + biasOf (n / (base - leastThreshold))
  else base * n / (n + 38)
termination_by n
decreasing_by
  simp only [base, leastThreshold, greatestThreshold] at *
  omega

/-- The bias behind a number; `count` characters are placed by then. -/
def adapt (number count : Nat) (isFirst : Bool) : Nat :=
  let scaled := if isFirst then number / 700 else number / 2
  biasOf (scaled + scaled / count)

/-- A text that is being read: what is placed so far, the code point and the position that the next
number counts from, and the bias of its thresholds. -/
structure Progress where
  placed : List Char
  code : Nat := firstCode
  position : Nat := 0
  bias : Nat := firstBias
  deriving Repr

/-- A number that is being read: its value so far, the worth of the next digit and its place. -/
structure Pending where
  value : Nat := 0
  worth : Nat := 1
  place : Nat := 0
  deriving Repr

namespace Progress

/-- Whether no number was read yet. -/
def isFresh (p : Progress) : Bool := p.position = 0

/-- Places a character as a number says. -/
def place? (p : Progress) (number : Nat) : Option Progress :=
  let count := p.placed.length + 1
  let target := p.position + number
  let code := p.code + target / count
  if code.isValidChar then
    some {
      placed := p.placed.insertIdx (target % count) (Char.ofNat code)
      code
      position := target % count + 1
      bias := adapt number count p.isFresh }
  else none

/-- Reads numbers; `n` is the beginning of the first one. -/
def read? (p : Progress) (n : Pending) : List Char → Option (List Char)
  | [] => if n.place = 0 then some p.placed else none
  | c :: cs => do
    let digit ← digit? c
    let value := n.value + digit * n.worth
    let t := threshold p.bias n.place
    if digit < t then
      let p ← p.place? value
      p.read? {} cs
    else p.read? ⟨value, n.worth * (base - t), n.place + 1⟩ cs

end Progress

/-- What stands before and after the last hyphen. A hyphen in front is not counted. -/
def splitLast (cs : List Char) : List Char × List Char :=
  let behind := (cs.reverse.takeWhile (· != '-')).reverse
  let before := cs.take (cs.length - behind.length - 1)
  if before.isEmpty then ([], cs) else (before, behind)

/-- Reads a text. -/
def decode? (cs : List Char) : Option (List Char) :=
  let (basic, numbers) := splitLast cs
  if basic.all isBasic then Progress.read? { placed := basic } {} numbers else none

theorem threshold_pos (bias place : Nat) : 0 < threshold bias place := by
  simp only [threshold, leastThreshold]
  omega

/-- The digits of a number from a place on. -/
def digitsFrom (bias place number : Nat) : List Char :=
  let t := threshold bias place
  if number < t then [digitChar number]
  else
    digitChar (t + (number - t) % (base - t)) ::
      digitsFrom bias (place + 1) ((number - t) / (base - t))
termination_by number
decreasing_by
  have := threshold_pos bias place
  exact Nat.lt_of_le_of_lt (Nat.div_le_self _ _) (by omega)

/-- A text that is being written: the digits in reverse, the number that is being counted, how many
characters are placed, and the bias. -/
structure Draft where
  digits : List Char := []
  number : Nat := 0
  count : Nat
  bias : Nat := firstBias
  isFirst : Bool := true
  deriving Repr

/-- Passes a character while those with the code point `code` are placed. -/
def Draft.pass (code : Nat) (d : Draft) (c : Char) : Draft :=
  if c.toNat < code then { d with number := d.number + 1 }
  else if c.toNat = code then {
    digits := (digitsFrom d.bias 0 d.number).reverse ++ d.digits
    number := 0
    count := d.count + 1
    bias := adapt d.number (d.count + 1) d.isFirst
    isFirst := false }
  else d

/-- Places the characters of every code point in `codes`, of which `code` is the first that is not
passed yet. -/
def Draft.write (text : List Char) (d : Draft) (code : Nat) : List Nat → List Char
  | [] => d.digits.reverse
  | next :: codes =>
    let d := { d with number := d.number + (next - code) * (d.count + 1) }
    let d := text.foldl (Draft.pass next) d
    Draft.write text { d with number := d.number + 1 } (next + 1) codes

/-- Puts a code point into an increasing list, unless it is there. -/
def insertCode (code : Nat) : List Nat → List Nat
  | [] => [code]
  | next :: codes =>
    if code < next then code :: next :: codes
    else if code = next then next :: codes
    else next :: insertCode code codes

/-- The code points of a text that are not of ASCII, in increasing order. -/
def codesOf (cs : List Char) : List Nat :=
  (cs.filter (!isBasic ·)).foldr (fun c codes => insertCode c.toNat codes) []

/-- Writes a text. -/
def encode (cs : List Char) : List Char :=
  let basic := cs.filter isBasic
  let front := if basic.isEmpty then [] else basic ++ ['-']
  front ++ Draft.write cs { count := basic.length } firstCode (codesOf cs)

end AnalyzerClient.Uri.Punycode
