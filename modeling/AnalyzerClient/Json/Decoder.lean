import AnalyzerClient.Json.Draft
import AnalyzerClient.Word

/-!
# Decoding drafts into typed values

A decoder goes through a draft from left to right and stops at the first fault, be it a fault of the
text or a part of the wrong shape. A record is written as an object with the fields in any order or
as an array of the fields in their order. Members of an object that are no fields are skipped, and a
field that stands there twice is a fault.
-/

namespace AnalyzerClient.Json

/-- A decoder of values of a type. -/
abbrev Decoder (α : Type) := Draft → Except Fault α

namespace Decoder

variable {α β : Type}

/-- The fault of a draft that has the wrong shape: its own fault, if it is a scalar that has one. -/
def wrongShape : Draft → Fault
  | .fault f => f
  | .unclosed f => f
  | .flawed f _ => f
  | _ => .mismatch

/-- Any value. -/
def any : Decoder Json := Draft.value

/-- A text. -/
def string : Decoder String
  | .string s => .ok s
  | d => .error (wrongShape d)

/-- A truth value. -/
def bool : Decoder Bool
  | .bool b => .ok b
  | d => .error (wrongShape d)

/-- Null. -/
def unit : Decoder Unit
  | .null => .ok ()
  | d => .error (wrongShape d)

/-- An integer `n` with `low ≤ n < high`. -/
def intBetween (low high : Int) : Decoder Int
  | .number (.int n) => if low ≤ n ∧ n < high then .ok n else .error .mismatch
  | d => .error (wrongShape d)

/-- A natural number below a bound. -/
def natBelow (bound : Nat) : Decoder Nat := fun d => (intBetween 0 bound d).map Int.toNat

/-- A natural number of 32 bits. -/
def nat32 : Decoder Nat := natBelow Word.count32

/-- An integer of 32 bits with a sign. -/
def int32 : Decoder Int := intBetween (-Word.half32) Word.half32

/-- A value, or null for none. -/
def optional (decode : Decoder α) : Decoder (Option α)
  | .null => .ok none
  | d => (decode d).map some

/-- The items of an array. -/
def items (decode : Decoder α) : List Draft → Except Fault (List α)
  | [] => .ok []
  | d :: ds => do
    let a ← decode d
    let as ← items decode ds
    return a :: as

/-- An array of values. -/
def list (decode : Decoder α) : Decoder (List α)
  | .array ds => items decode ds
  | d => .error (wrongShape d)

/-- The members of an object, with the keys decoded too. -/
def members (key : String → Except Fault String) (decode : Decoder α) :
    List (Except Fault String × Draft) → Dict α → Except Fault (Dict α)
  | [], before => .ok before
  | (k, d) :: ms, before => do
    let k ← k
    let k ← key k
    let a ← decode d
    members key decode ms (before.insert k a)

/-- An object whose members all have values of one kind; of equal keys the last one counts. -/
def dictWith (key : String → Except Fault String) (decode : Decoder α) : Decoder (Dict α)
  | .object ms => members key decode ms []
  | d => .error (wrongShape d)

/-- An object whose members all have values of one kind. -/
def dict (decode : Decoder α) : Decoder (Dict α) := dictWith .ok decode

/-- The first of several decoders that succeeds on the value of a draft. -/
def firstOf (decoders : List (Decoder α)) : Decoder α := fun d => do
  let v ← d.value
  match decoders.findSome? fun decode => (decode (Draft.ofJson v)).toOption with
  | some a => .ok a
  | none => .error .mismatch

/-- Null, or an object without members. -/
def unitOrEmpty : Decoder Unit
  | .object [] => .ok ()
  | d => unit d

/-- One of several names: written as the name, or as an object with the name as its only member,
which has nothing to say. -/
def namedWith (content : Decoder Unit) (ofName : String → Option α) : Decoder α
  | .string s =>
    match ofName s with
    | some a => .ok a
    | none => .error .mismatch
  | .object ((k, d) :: ms) => do
    let name ← k
    let some a := ofName name | .error .mismatch
    content d
    match ms with
    | [] => .ok a
    | (.error f, .fault _) :: _ => .error f
    | _ => .error .mismatch
  | d => .error (wrongShape d)

/-- One of several names, or an object with the name as its only member, which is null. -/
def named (ofName : String → Option α) : Decoder α := namedWith unit ofName

/-- Decodes a value. Whatever is wrong with it is its shape. -/
def ofJson (decode : Decoder α) (v : Json) : Except Fault α :=
  (decode (Draft.ofJson v)).mapError fun _ => .mismatch

/-- Decodes a value, if it has the right shape. -/
def ofJson? (decode : Decoder α) (v : Json) : Option α := (decode (Draft.ofJson v)).toOption

/-- Decodes a text. -/
def ofText (decode : Decoder α) (text : String) : Except Fault α := do
  let (d, behind) := Draft.ofText .characters text.toList
  let a ← decode d
  match behind with
  | some f => .error f
  | none => .ok a

end Decoder

/-! ## Records -/

/-- When a field may be missing. -/
inductive Presence where
  /-- Never. -/
  | required
  /-- In an object, and it is none then. -/
  | optional
  /-- In an object and at the end of an array, and it has its default then. -/
  | defaulted
  deriving DecidableEq

/-- A field of a record, with the check of its value. -/
structure Field where
  name : String
  presence : Presence
  check : Draft → Except Fault Unit

/-- How records of a type are decoded: the fields, and the record from the drafts of those that are
present. -/
structure Record (α : Type) where
  fields : List Field
  build : (String → Option Draft) → Except Fault α

namespace Record

variable {α β : Type}

/-- A record whose values go through a function in the end. -/
instance : Functor Record where
  map f r := ⟨r.fields, fun present => (r.build present).map f⟩

/-- A record without fields, and the fields of two records one after the other. -/
instance : Applicative Record where
  pure a := ⟨[], fun _ => .ok a⟩
  seq f r := ⟨f.fields ++ (r ()).fields, fun present => do
    let g ← f.build present
    let a ← (r ()).build present
    return g a⟩

/-- A field that must be present. -/
def required (name : String) (decode : Decoder α) : Record α where
  fields := [⟨name, .required, fun d => (decode d).map fun _ => ()⟩]
  build present :=
    match present name with
    | some d => decode d
    | none => .error .mismatch

/-- A field that may be missing or null. -/
def optional (name : String) (decode : Decoder α) : Record (Option α) where
  fields := [⟨name, .optional, fun d => (Decoder.optional decode d).map fun _ => ()⟩]
  build present :=
    match present name with
    | some d => Decoder.optional decode d
    | none => .ok none

/-- A field that has a default when it is missing. -/
def defaulted (name : String) (decode : Decoder α) (default : α) : Record α where
  fields := [⟨name, .defaulted, fun d => (decode d).map fun _ => ()⟩]
  build present :=
    match present name with
    | some d => decode d
    | none => .ok default

/-- A field that may be null, and is none also when it is missing, at the end of an array too. -/
def defaultedOptional (name : String) (decode : Decoder α) : Record (Option α) :=
  defaulted name (Decoder.optional decode) none

/-- Checks members against the fields, of which those in `seen` stood before. A member that is no
field is passed to `other`. -/
def checkMembers (fields : List Field) (other : Draft → Except Fault Unit) (seen : List String) :
    List (Except Fault String × Draft) → Except Fault Unit
  | [] =>
    if fields.all fun f => f.presence != .required || seen.contains f.name then .ok ()
    else .error .mismatch
  | (key, d) :: ms => do
    let k ← key
    match fields.find? (·.name == k) with
    | none => do
      other d
      checkMembers fields other seen ms
    | some f =>
      if seen.contains k then .error .mismatch
      else do
        f.check d
        checkMembers fields other (k :: seen) ms

/-- Checks the items of an array against the fields. One more item is a fault of the text, whatever
it is, but an array that is not closed behind the last item has a fault of its own. -/
def checkItems : List Field → List Draft → Except Fault Unit
  | [], [] => .ok ()
  | [], .unclosed f :: _ => .error f
  | [], _ :: _ => .error ⟨.malformed, 0⟩
  | f :: fields, [] =>
    if f.presence == .defaulted then checkItems fields [] else .error .mismatch
  | f :: fields, d :: ds => do
    f.check d
    checkItems fields ds

/-- The draft of a member. -/
def memberDraft? (key : String) (ms : List (Except Fault String × Draft)) : Option Draft :=
  (ms.find? fun (k, _) => k.toOption == some key).map (·.2)

/-- The draft of the item that stands for a field. -/
def itemDraft? (key : String) (fields : List Field) (ds : List Draft) : Option Draft :=
  ((fields.zip ds).find? fun (f, _) => f.name == key).map (·.2)

/-- Decodes a record that is written as an object; members that are no fields are passed to
`other`. -/
def decodeObject (r : Record α) (other : Draft → Except Fault Unit) : Decoder α
  | .object ms => do
    checkMembers r.fields other [] ms
    r.build (memberDraft? · ms)
  | d => .error (Decoder.wrongShape d)

/-- Decodes a record. -/
def decode (r : Record α) : Decoder α
  | .array ds => do
    checkItems r.fields ds
    r.build (itemDraft? · r.fields ds)
  | d => r.decodeObject Draft.skip d

end Record

/-! ## Variants -/

namespace Decoder

variable {α : Type}

/-- The variant that a tag stands for: its name, or its place in the list. -/
def variant? (variants : List (String × Decoder α)) : Json → Option (Decoder α)
  | .string name => List.lookup name variants
  | .number (.int n) => if n < 0 then none else variants[n.toNat]?.map (·.2)
  | _ => none

/-- One of several records. An object names its variant in the member `tag`, an array in its first
item. -/
def tagged (tag : String) (variants : List (String × Decoder α)) : Decoder α := fun d => do
  let v ← d.value
  let (name, content) := match v with
    | .object members => (v.member? tag, Json.object (members.filter (·.1 != tag)))
    | .array (name :: items) => (some name, .array items)
    | _ => (none, .null)
  match name.bind (variant? variants) with
  | some decode => decode (Draft.ofJson content)
  | none => .error .mismatch

end Decoder

end AnalyzerClient.Json
