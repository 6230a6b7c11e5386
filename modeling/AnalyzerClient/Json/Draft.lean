import AnalyzerClient.Json.Lexeme

/-!
# Drafts: JSON texts as they are read

A draft is the tree of a text with all that the value forgets: members in their order, with repeated
keys, and the faults in the places where they are. A value or a record is decoded from a draft from
left to right, so that of several faults the first one counts. What is skipped needs no value, and
then flaws do not count: a number that is too large, half of a surrogate pair, octets that are no
text, or more than `Draft.maxDepth` nested arrays and objects.

`Draft.ofText` reads a text, `Draft.ofJson` gives the draft of a value, and `Draft.value` is the
value of a draft.
-/

namespace AnalyzerClient.Json

/-- A text as it is read. -/
inductive Draft where
  | null
  | bool (b : Bool)
  | number (n : Number)
  | string (s : String)
  | array (items : List Draft)
  | object (members : List (Except Fault String × Draft))
  /-- The text is at fault here, and nothing more of it is read. -/
  | fault (f : Fault)
  /-- Behind the last item of an array, which is not closed there. -/
  | unclosed (f : Fault)
  /-- What stands here has no value because of a flaw, but it can be skipped like `d`. -/
  | flawed (f : Fault) (d : Draft)
  deriving Inhabited

namespace Draft

/-- How many arrays and objects may be nested. -/
def maxDepth : Nat := 127

/-! ## Reading -/

/-- A string behind its opening quote, as a draft. -/
def ofString (u : Units) (cs : List Char) : Draft × Option (List Char) :=
  let t := readString u none cs
  let d := match t.text u, t.rest with
    | .ok s, _ => .string s
    | .error f, .ok _ => .flawed f .null
    | .error f, .error g => .flawed f (.fault g)
  (d, t.rest.toOption)

/-- A number, as a draft. One that is cut off is a fault of the end of the text when its value is
needed, and malformed when it is skipped. -/
def ofNumber (cs : List Char) : Draft × Option (List Char) :=
  match readNumber cs with
  | .error f => (.flawed f (.fault ⟨.malformed, f.left⟩), none)
  | .ok (t, rest) =>
    match t.value? with
    | some n => (.number n, some rest)
    | none => (.flawed ⟨.malformed, rest.length⟩ .null, some rest)

/-- The rest of a word, as a draft. -/
def ofWord (word : List Char) (d : Draft) (cs : List Char) : Draft × Option (List Char) :=
  match readWord word cs with
  | .error f => (.fault f, none)
  | .ok rest => (d, some rest)

/-- A value that is no array and no object, without a gap in front. -/
def ofScalar (u : Units) : List Char → Draft × Option (List Char)
  | [] => (.fault ⟨.ended, 0⟩, none)
  | '"' :: cs => ofString u cs
  | 'n' :: cs => ofWord ['u', 'l', 'l'] .null cs
  | 't' :: cs => ofWord ['r', 'u', 'e'] (.bool true) cs
  | 'f' :: cs => ofWord ['a', 'l', 's', 'e'] (.bool false) cs
  | c :: cs =>
    if c = '-' || Text.Numeral.isDigit c then ofNumber (c :: cs)
    else (.fault ⟨.malformed, cs.length⟩, none)

/-- What may follow while nested arrays and objects are skipped. -/
inductive Expect where
  /-- A value. -/
  | value
  /-- The first item or member, or the end, of what was just opened. -/
  | first
  /-- A key. -/
  | key
  /-- A comma, or the end of what is open. -/
  | more

/-- Skips nested arrays and objects without their values; `opened` tells of each that is open
whether it is an object, the innermost first. -/
def skipNested (u : Units) : (fuel : Nat) → (opened : List Bool) → Expect → List Char →
    Except Fault (List Char)
  | 0, _, _, _ => .error ⟨.ended, 0⟩
  | fuel + 1, opened, expect, cs =>
    match expect, opened, skipGap cs with
    | .more, [], _ => .ok cs
    | _, _, [] => .error ⟨.ended, 0⟩
    | .value, _, '[' :: rest => skipNested u fuel (false :: opened) .first rest
    | .value, _, '{' :: rest => skipNested u fuel (true :: opened) .first rest
    | .value, _, rest =>
      match ofScalar u rest with
      | (.fault f, _) | (.flawed _ (.fault f), _) => .error f
      | (_, some rest) => skipNested u fuel opened .more rest
      | (_, none) => .error ⟨.ended, 0⟩
    | .first, false :: opened, ']' :: rest => skipNested u fuel opened .more rest
    | .first, true :: opened, '}' :: rest => skipNested u fuel opened .more rest
    | .first, true :: _, rest => skipNested u fuel opened .key rest
    | .first, _, rest => skipNested u fuel opened .value rest
    | .key, _, '"' :: rest =>
      match (readString u none rest).rest with
      | .error f => .error f
      | .ok rest =>
        match skipGap rest with
        | ':' :: rest => skipNested u fuel opened .value rest
        | [] => .error ⟨.ended, 0⟩
        | _ :: rest => .error ⟨.malformed, rest.length⟩
    | .key, _, _ :: rest => .error ⟨.malformed, rest.length⟩
    | .more, false :: opened, ']' :: rest => skipNested u fuel opened .more rest
    | .more, true :: opened, '}' :: rest => skipNested u fuel opened .more rest
    | .more, inObject :: _, ',' :: rest =>
      skipNested u fuel opened (if inObject then .key else .value) rest
    | .more, _, _ :: rest => .error ⟨.malformed, rest.length⟩

/-- An array or object that is nested too deep, as a draft; `left` characters stand behind its
bracket. -/
def ofDeep (u : Units) (inObject : Bool) (cs : List Char) : Draft × Option (List Char) :=
  let flaw : Fault := ⟨.malformed, cs.length⟩
  match skipNested u (2 * cs.length + 2) [inObject] .first cs with
  | .error f => (.flawed flaw (.fault f), none)
  | .ok rest => (.flawed flaw .null, some rest)

mutual

/-- Reads a value in which arrays and objects may be nested `depth` deep. The rest of the text is
missing when the draft ends in a fault. -/
def readValue (u : Units) : (fuel depth : Nat) → List Char → Draft × Option (List Char)
  | 0, _, _ => (.fault ⟨.ended, 0⟩, none)
  | fuel + 1, depth, cs =>
    match skipGap cs with
    | '[' :: rest =>
      match depth with
      | 0 => ofDeep u false rest
      | depth + 1 =>
        let (items, rest) := readItems u fuel depth rest
        (.array items, rest)
    | '{' :: rest =>
      match depth with
      | 0 => ofDeep u true rest
      | depth + 1 =>
        let (members, rest) := readMembers u fuel depth rest
        (.object members, rest)
    | rest => ofScalar u rest

/-- Reads the items of an array behind its bracket. -/
def readItems (u : Units) : (fuel depth : Nat) → List Char → List Draft × Option (List Char)
  | 0, _, _ => ([.fault ⟨.ended, 0⟩], none)
  | fuel + 1, depth, cs =>
    match skipGap cs with
    | ']' :: rest => ([], some rest)
    | rest => readItem u fuel depth rest

/-- Reads an item and those behind it. -/
def readItem (u : Units) : (fuel depth : Nat) → List Char → List Draft × Option (List Char)
  | 0, _, _ => ([.fault ⟨.ended, 0⟩], none)
  | fuel + 1, depth, cs =>
    match readValue u fuel depth cs with
    | (d, none) => ([d], none)
    | (d, some rest) =>
      let (ds, rest) := readMoreItems u fuel depth rest
      (d :: ds, rest)

/-- Reads what follows an item. -/
def readMoreItems (u : Units) : (fuel depth : Nat) → List Char → List Draft × Option (List Char)
  | 0, _, _ => ([.unclosed ⟨.ended, 0⟩], none)
  | fuel + 1, depth, cs =>
    match skipGap cs with
    | ']' :: rest => ([], some rest)
    | ',' :: rest => readItem u fuel depth rest
    | [] => ([.unclosed ⟨.ended, 0⟩], none)
    | _ :: rest => ([.unclosed ⟨.malformed, rest.length⟩], none)

/-- Reads the members of an object behind its bracket. -/
def readMembers (u : Units) : (fuel depth : Nat) → List Char →
    List (Except Fault String × Draft) × Option (List Char)
  | 0, _, _ => ([(.error ⟨.ended, 0⟩, .fault ⟨.ended, 0⟩)], none)
  | fuel + 1, depth, cs =>
    match skipGap cs with
    | '}' :: rest => ([], some rest)
    | rest => readMember u fuel depth rest

/-- Reads a member and those behind it. -/
def readMember (u : Units) : (fuel depth : Nat) → List Char →
    List (Except Fault String × Draft) × Option (List Char)
  | 0, _, _ => ([(.error ⟨.ended, 0⟩, .fault ⟨.ended, 0⟩)], none)
  | fuel + 1, depth, cs =>
    match skipGap cs with
    | '"' :: rest =>
      let t := readString u none rest
      match t.rest with
      | .error f => ([(t.text u, .fault f)], none)
      | .ok rest =>
        let key := t.text u
        match skipGap rest with
        | ':' :: rest =>
          match readValue u fuel depth rest with
          | (d, none) => ([(key, d)], none)
          | (d, some rest) =>
            let (ms, rest) := readMoreMembers u fuel depth rest
            ((key, d) :: ms, rest)
        | [] => ([(key, .fault ⟨.ended, 0⟩)], none)
        | _ :: rest => ([(key, .fault ⟨.malformed, rest.length⟩)], none)
    | [] => ([(.error ⟨.ended, 0⟩, .fault ⟨.ended, 0⟩)], none)
    | _ :: rest => ([(.error ⟨.malformed, rest.length⟩, .fault ⟨.malformed, rest.length⟩)], none)

/-- Reads what follows a member. -/
def readMoreMembers (u : Units) : (fuel depth : Nat) → List Char →
    List (Except Fault String × Draft) × Option (List Char)
  | 0, _, _ => ([(.error ⟨.ended, 0⟩, .fault ⟨.ended, 0⟩)], none)
  | fuel + 1, depth, cs =>
    match skipGap cs with
    | '}' :: rest => ([], some rest)
    | ',' :: rest => readMember u fuel depth rest
    | [] => ([(.error ⟨.ended, 0⟩, .fault ⟨.ended, 0⟩)], none)
    | _ :: rest => ([(.error ⟨.malformed, rest.length⟩, .fault ⟨.malformed, rest.length⟩)], none)

end

/-- The draft of a text, and the fault of what stands behind its value. -/
def ofText (u : Units) (cs : List Char) : Draft × Option Fault :=
  match readValue u (3 * cs.length + 3) maxDepth cs with
  | (d, none) => (d, none)
  | (d, some rest) =>
    match skipGap rest with
    | [] => (d, none)
    | _ :: rest => (d, some ⟨.malformed, rest.length⟩)

/-! ## Values -/

mutual

/-- The value of a draft, or its first fault. Of equal keys the last one counts. -/
def value : Draft → Except Fault Json
  | .null => .ok .null
  | .bool b => .ok (.bool b)
  | .number n => .ok (.number n)
  | .string s => .ok (.string s)
  | .array items => (values items).map .array
  | .object members => (memberValues members []).map .object
  | .fault f => .error f
  | .unclosed f => .error f
  | .flawed f _ => .error f

/-- The values of items, or their first fault. -/
def values : List Draft → Except Fault (List Json)
  | [] => .ok []
  | d :: ds => do
    let v ← d.value
    let vs ← values ds
    return v :: vs

/-- Adds the values of members to those before them. -/
def memberValues : List (Except Fault String × Draft) → Dict Json → Except Fault (Dict Json)
  | [], before => .ok before
  | (key, d) :: ms, before => do
    let k ← key
    let v ← d.value
    memberValues ms (before.insert k v)

end

mutual

/-- Skips a draft: only faults count. -/
def skip : Draft → Except Fault Unit
  | .array items => skipItems items
  | .object members => skipMembers members
  | .fault f => .error f
  | .unclosed f => .error f
  | .flawed _ d => d.skip
  | _ => .ok ()

/-- Skips items. -/
def skipItems : List Draft → Except Fault Unit
  | [] => .ok ()
  | d :: ds => do
    d.skip
    skipItems ds

/-- Skips members. -/
def skipMembers : List (Except Fault String × Draft) → Except Fault Unit
  | [] => .ok ()
  | (_, d) :: ms => do
    d.skip
    skipMembers ms

end

mutual

/-- The draft of a value. -/
def ofJson : Json → Draft
  | .null => .null
  | .bool b => .bool b
  | .number n => .number n
  | .string s => .string s
  | .array items => .array (ofItems items)
  | .object members => .object (ofMembers members)

/-- The drafts of items. -/
def ofItems : List Json → List Draft
  | [] => []
  | v :: vs => ofJson v :: ofItems vs

/-- The drafts of members. -/
def ofMembers : List (String × Json) → List (Except Fault String × Draft)
  | [] => []
  | (k, v) :: ms => (.ok k, ofJson v) :: ofMembers ms

end

end Draft

/-- Reads a value from units, or gives the first fault. -/
def ofUnits (u : Units) (cs : List Char) : Except Fault Json := do
  let (d, behind) := Draft.ofText u cs
  let v ← d.value
  match behind with
  | some f => .error f
  | none => .ok v

/-- Reads a value from the characters of a text. -/
def ofChars (cs : List Char) : Except Fault Json := ofUnits .characters cs

/-- Reads a value from a text. -/
def ofText (text : String) : Except Fault Json := ofChars text.toList

/-- Reads a value from octets. When they are no text, the first fault is looked for octet by
octet. -/
def ofOctets (octets : List UInt8) : Except Fault Json :=
  match Text.Utf8.decode? octets with
  | some text => ofText text
  | none => ofUnits .octets (octets.map fun b => Char.ofNat b.toNat)

end AnalyzerClient.Json
