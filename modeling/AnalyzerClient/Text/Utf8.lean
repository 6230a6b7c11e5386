/-!
# UTF-8

Texts as octets. Reading is strict or lossy; a strict reading that fails says where the octets stop
being a text, and a lossy one writes U+FFFD for every ill-formed piece.
-/

namespace AnalyzerClient.Text.Utf8

/-- The octets of a text. -/
def encode (s : String) : List UInt8 := s.toList.flatMap String.utf8EncodeChar

/-- The first ill-formed piece of a sequence of octets: where it begins, and how many octets it has
when another octet rules it out. A piece without a length is the beginning of a character that is
cut off by the end. -/
structure Error where
  validUpTo : Nat
  length : Option Nat
  deriving DecidableEq, Repr

/-- The wording of an error. -/
def Error.message (e : Error) : String :=
  match e.length with
  | some n => s!"invalid utf-8 sequence of {n} bytes from index {e.validUpTo}"
  | none => s!"incomplete utf-8 byte sequence from index {e.validUpTo}"

/-- How many octets of a character follow its first one, and the range of the first of them. -/
def lead? (b : UInt8) : Option (Nat × UInt8 × UInt8) :=
  if b ≤ 0x7F then some (0, 0x80, 0xBF)
  else if b < 0xC2 then none
  else if b ≤ 0xDF then some (1, 0x80, 0xBF)
  else if b = 0xE0 then some (2, 0xA0, 0xBF)
  else if b = 0xED then some (2, 0x80, 0x9F)
  else if b ≤ 0xEF then some (2, 0x80, 0xBF)
  else if b = 0xF0 then some (3, 0x90, 0xBF)
  else if b ≤ 0xF3 then some (3, 0x80, 0xBF)
  else if b = 0xF4 then some (3, 0x80, 0x8F)
  else none

/-- How a sequence of octets begins. -/
inductive Piece where
  /-- A character of so many octets. -/
  | char (size : Nat)
  /-- So many octets that begin no character. -/
  | invalid (size : Nat)
  /-- The octets are the beginning of a character, and no more follow. -/
  | incomplete
  deriving DecidableEq, Repr

/-- Follows a character for `owed` more octets, the next of them between `low` and `high`; `size`
octets of it are read. -/
def follow : (owed size : Nat) → (low high : UInt8) → List UInt8 → Piece
  | 0, size, _, _, _ => .char size
  | _ + 1, _, _, _, [] => .incomplete
  | owed + 1, size, low, high, b :: bs =>
    if low ≤ b && b ≤ high then follow owed (size + 1) 0x80 0xBF bs else .invalid size

/-- The piece that begins with octet `b`. -/
def piece (b : UInt8) (bs : List UInt8) : Piece :=
  match lead? b with
  | none => .invalid 1
  | some (owed, low, high) => follow owed 1 low high bs

/-- The first error of a sequence of octets, of which `position` octets were read before; `skip`
octets of the present character are still to be passed. -/
def firstErrorFrom : (skip position : Nat) → List UInt8 → Option Error
  | _, _, [] => none
  | skip + 1, position, _ :: bs => firstErrorFrom skip (position + 1) bs
  | 0, position, b :: bs =>
    match piece b bs with
    | .char size => firstErrorFrom (size - 1) (position + 1) bs
    | .invalid size => some ⟨position, some size⟩
    | .incomplete => some ⟨position, none⟩

/-- The first error of a sequence of octets. -/
def firstError (bs : List UInt8) : Option Error := firstErrorFrom 0 0 bs

/-- The text of a sequence of octets, if they are well-formed. -/
def decode? (bs : List UInt8) : Option String := String.fromUTF8? bs.toByteArray

/-- The text of a sequence of octets, or its first error. -/
def decode (bs : List UInt8) : Except Error String :=
  match decode? bs with
  | some s => .ok s
  | none => .error ((firstError bs).getD ⟨0, none⟩)

/-- Replaces every ill-formed piece by the octets of U+FFFD; `skip` octets of the present piece are
still to be passed, and they are kept when `keep` holds. -/
def mendFrom : (skip : Nat) → (keep : Bool) → List UInt8 → List UInt8
  | _, _, [] => []
  | skip + 1, keep, b :: bs => if keep then b :: mendFrom skip keep bs else mendFrom skip keep bs
  | 0, _, b :: bs =>
    match piece b bs with
    | .char size => b :: mendFrom (size - 1) true bs
    | .invalid size => 0xEF :: 0xBF :: 0xBD :: mendFrom (size - 1) false bs
    | .incomplete => [0xEF, 0xBF, 0xBD]

/-- The text of a sequence of octets, with U+FFFD for every ill-formed piece. -/
def decodeLossy (bs : List UInt8) : String := (decode? (mendFrom 0 true bs)).getD ""

theorem decode?_encode (s : String) : decode? (encode s) = some s := by
  have h : (encode s).toByteArray = s.toByteArray := by
    rw [← String.utf8Encode_toList]
    rfl
  simp only [decode?, String.fromUTF8?, h, dif_pos s.isValidUTF8]
  rfl

end AnalyzerClient.Text.Utf8
