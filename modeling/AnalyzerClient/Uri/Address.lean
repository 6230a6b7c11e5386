import AnalyzerClient.Text.Blank
import AnalyzerClient.Text.Numeral
import AnalyzerClient.Word

/-!
# Network addresses

A host may be an IPv4 address of 32 bits, written as up to four numbers between points, or an IPv6
address of 128 bits, written as groups of hexadecimal digits between colons.
-/

namespace AnalyzerClient.Uri

open AnalyzerClient.Text

/-- An IPv4 address. -/
structure Ipv4 where
  value : Nat
  deriving DecidableEq, Repr

/-- An IPv6 address, as eight groups of 16 bits. -/
structure Ipv6 where
  groups : List Nat
  deriving DecidableEq, Repr

namespace Ipv4

/-- A numeral in a base, whose digits are all below it. -/
def readInBase? (base : Nat) (digits : List Char) : Option Nat :=
  digits.foldlM (fun n c => do
    let d ← Numeral.hexValue? c
    if d < base then some (base * n + d) else none) 0

/-- Reads a part of an address: hexadecimal behind `0x`, octal behind another `0`, and otherwise
decimal. -/
def readPart? : List Char → Option Nat
  | [] => none
  | '0' :: 'x' :: digits | '0' :: 'X' :: digits => readInBase? 16 digits
  | '0' :: digits => readInBase? 8 digits
  | digits => readInBase? 10 digits

/-- The parts of an address; there may be a point behind the last one. -/
def parts (host : List Char) : List (List Char) :=
  let parts := Chars.pieces (· = '.') host
  if parts.getLast? = some [] then parts.dropLast else parts

/-- Whether a host must be an address, because its last part looks like a number. -/
def isMeant (host : List Char) : Bool :=
  match (parts host).getLast? with
  | none => false
  | some last => (!last.isEmpty && last.all Numeral.isDigit) || (readPart? last).isSome

/-- The worth of the first `count` octets of an address in terms of the others: how many values the
others have. -/
def worth (count : Nat) : Nat := Nat.pow 256 (4 - count)

/-- Reads an address. The last number fills all the octets that the others leave. -/
def read? (host : List Char) : Option Ipv4 := do
  let numbers ← (parts host).mapM readPart?
  let last ← numbers.getLast?
  let octets := numbers.dropLast
  if 3 < octets.length || octets.any (255 < ·) then none
  else if worth octets.length ≤ last then none
  else some ⟨octets.foldl (fun n octet => 256 * n + octet) 0 * worth octets.length + last⟩

/-- Writes an address. -/
def render (a : Ipv4) : List Char :=
  ['.'].intercalate ([1, 2, 3, 4].map fun count => Numeral.digits (a.value / worth count % 256))

end Ipv4

namespace Ipv6

/-- Reads a group of one to four hexadecimal digits. -/
def readGroup? (digits : List Char) : Option Nat :=
  if 4 < digits.length then none else Numeral.hex? digits

/-- Reads a decimal octet without leading zeros. -/
def readOctet? (digits : List Char) : Option Nat :=
  if digits.isEmpty || !digits.all Numeral.isDigit then none
  else if digits.head? = some '0' && 1 < digits.length then none
  else if Numeral.value digits < 256 then some (Numeral.value digits)
  else none

/-- Reads two groups that are written as an IPv4 address. -/
def readIpv4? (piece : List Char) : Option (List Nat) := do
  match ← (Chars.pieces (· = '.') piece).mapM readOctet? with
  | [a, b, c, d] => some [256 * a + b, 256 * c + d]
  | _ => none

/-- Reads groups; if `atEnd` holds, the last two may be written as an IPv4 address. -/
def readGroups? (atEnd : Bool) (text : List Char) : Option (List Nat) := do
  if text.isEmpty then return []
  let pieces := Chars.pieces (· = ':') text
  let last := pieces.getLast?.getD []
  let front ← pieces.dropLast.mapM readGroup?
  let back ← if atEnd && last.contains '.' then readIpv4? last else (readGroup? last).map ([·])
  return front ++ back

/-- What stands before and after the first two colons in a row. -/
def splitColons : List Char → Option (List Char × List Char)
  | ':' :: ':' :: cs => some ([], cs)
  | c :: cs => (splitColons cs).map fun (before, after) => (c :: before, after)
  | [] => none

/-- How many groups an address has. -/
def size : Nat := 8

/-- Reads an address. Two colons in a row stand for as many zeros as are missing, but for one at
least. -/
def read? (text : List Char) : Option Ipv6 :=
  match splitColons text with
  | none => do
    let groups ← readGroups? true text
    if groups.length = size then some ⟨groups⟩ else none
  | some (before, after) => do
    let front ← readGroups? false before
    let back ← readGroups? true after
    let count := front.length + back.length
    if count < size then some ⟨front ++ List.replicate (size - count) 0 ++ back⟩ else none

/-- How many zeros a list of groups begins with. -/
def leadingZeros (groups : List Nat) : Nat := (groups.takeWhile (· = 0)).length

/-- Where the first of the longest runs of zeros begins, and how many zeros it has; `index` is the
position of the first group. -/
def longestRun (index : Nat) : List Nat → Nat × Nat
  | [] => (index, 0)
  | group :: groups =>
    let here := leadingZeros (group :: groups)
    let there := longestRun (index + 1) groups
    if there.2 ≤ here then (index, here) else there

/-- Writes groups. -/
def renderGroups (groups : List Nat) : List Char :=
  [':'].intercalate (groups.map (Nat.toDigits 16))

/-- Writes an address; the longest run of zeros is left out, if there are two of them at least. -/
def render (a : Ipv6) : List Char :=
  let (start, count) := longestRun 0 a.groups
  if count < 2 then renderGroups a.groups
  else
    renderGroups (a.groups.take start) ++ [':', ':'] ++ renderGroups (a.groups.drop (start + count))

end Ipv6

end AnalyzerClient.Uri
