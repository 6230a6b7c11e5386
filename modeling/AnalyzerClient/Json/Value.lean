import AnalyzerClient.Binary64
import AnalyzerClient.Dict
import AnalyzerClient.Word

/-!
# JSON values

Numbers are integers of at most 64 bits, signed or unsigned, or floating-point numbers; the two
kinds are never equal. The members of an object are a dictionary.
-/

namespace AnalyzerClient

/-- A number as it is kept: an integer, or a floating-point number. -/
inductive Json.Number where
  | int (n : Int)
  | float (x : Binary64)
  deriving DecidableEq, Repr, Inhabited

/-- A JSON value. -/
inductive Json where
  | null
  | bool (b : Bool)
  | number (n : Json.Number)
  | string (s : String)
  | array (items : List Json)
  | object (members : List (String × Json))
  deriving Repr, Inhabited, BEq

namespace Json

/-- An integer that is kept exactly: it has at most 64 bits, with or without a sign. -/
def Number.InRange : Number → Prop
  | .int n => -(Word.half64 : Int) ≤ n ∧ n < Word.count64
  | .float _ => True

/-- The value of an integer. -/
def ofInt (n : Int) : Json := .number (.int n)

/-- The value of a natural number. -/
def ofNat (n : Nat) : Json := .number (.int n)

/-- The object with the given members; of equal keys the last one counts. -/
def mkObject (members : List (String × Json)) : Json := .object (Dict.ofList members)

/-- The array of texts. -/
def ofStrings (texts : List String) : Json := .array (texts.map .string)

/-- The object of a dictionary of texts. -/
def ofDict (d : Dict String) : Json := .object (d.mapValues .string)

/-- The value of a member of an object; other values have no members. -/
def member? (key : String) : Json → Option Json
  | .object members => Dict.get? members key
  | _ => none

/-- The value of a member of an object, and null when there is none. -/
def member (key : String) (v : Json) : Json := (v.member? key).getD .null

/-- The text of a string. -/
def string? : Json → Option String
  | .string s => some s
  | _ => none

/-- The number of an integer of 64 bits with a sign. -/
def int64? : Json → Option Int
  | .number (.int n) => if -(Word.half64 : Int) ≤ n ∧ n < Word.half64 then some n else none
  | _ => none

/-- The items of an array. -/
def items? : Json → Option (List Json)
  | .array items => some items
  | _ => none

/-- Whether a value is null. -/
def isNull : Json → Bool
  | .null => true
  | _ => false

/-- Whether a value is a truth value. -/
def isBool : Json → Bool
  | .bool _ => true
  | _ => false

/-- Whether a value is an object. -/
def isObject : Json → Bool
  | .object _ => true
  | _ => false

end Json

end AnalyzerClient
