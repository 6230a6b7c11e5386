import AnalyzerClient.Json.Printer
import AnalyzerClient.Json.Lexeme

/-!
# The two forms of a text

The compact and the pretty form differ only in the gaps between their lexemes. `spreadChars` writes
a value with any gaps, and both forms are instances of it (`spreadChars_compact`,
`spreadChars_pretty`), so that whatever is shown of it holds of both.
-/

namespace AnalyzerClient.Json

/-- The gaps of a form: in front of the items and members of a level, and behind a colon. -/
structure Spacing where
  line : Nat → List Char
  space : List Char
  line_gap : ∀ level, ∀ c ∈ line level, isGap c = true
  space_gap : ∀ c ∈ space, isGap c = true

/-- No gaps at all. -/
def Spacing.compact : Spacing := ⟨fun _ => [], [], nofun, nofun⟩

theorem isGap_of_mem_newline {level : Nat} {c : Char} (h : c ∈ newline level) : isGap c = true := by
  rcases List.mem_cons.mp h with rfl | h
  · rfl
  · rw [List.eq_of_mem_replicate h]; rfl

/-- A line for every item and member. -/
def Spacing.pretty : Spacing where
  line := newline
  space := [' ']
  line_gap _ _ := isGap_of_mem_newline
  space_gap _ h := by rw [List.mem_singleton.mp h]; rfl

@[simp] theorem Spacing.compact_line (level : Nat) : compact.line level = [] := rfl

@[simp] theorem Spacing.compact_space : compact.space = [] := rfl

@[simp] theorem Spacing.pretty_line (level : Nat) : pretty.line level = newline level := rfl

@[simp] theorem Spacing.pretty_space : pretty.space = [' '] := rfl

mutual

/-- A value that stands at a level, with gaps. -/
def spreadChars (g : Spacing) (level : Nat) : Json → List Char
  | .null => ['n', 'u', 'l', 'l']
  | .bool true => ['t', 'r', 'u', 'e']
  | .bool false => ['f', 'a', 'l', 's', 'e']
  | .number n => n.render
  | .string s => quote s
  | .array [] => ['[', ']']
  | .array (v :: vs) => '[' :: spreadItems g (level + 1) (v :: vs) ++ g.line level ++ [']']
  | .object [] => ['{', '}']
  | .object (m :: ms) => '{' :: spreadMembers g (level + 1) (m :: ms) ++ g.line level ++ ['}']

/-- Items with gaps. -/
def spreadItems (g : Spacing) (level : Nat) : List Json → List Char
  | [] => []
  | [v] => g.line level ++ spreadChars g level v
  | v :: vs => g.line level ++ spreadChars g level v ++ ',' :: spreadItems g level vs

/-- Members with gaps. -/
def spreadMembers (g : Spacing) (level : Nat) : List (String × Json) → List Char
  | [] => []
  | [(k, v)] => g.line level ++ quote k ++ ':' :: g.space ++ spreadChars g level v
  | (k, v) :: ms =>
    g.line level ++ quote k ++ ':' :: g.space ++ spreadChars g level v ++
      ',' :: spreadMembers g level ms

end

-- The equations are generated here, once, so that no proof waits for another to do it.
attribute [grind =] compactChars compactItems compactMembers prettyChars prettyItems prettyMembers
  spreadChars spreadItems spreadMembers

section Texts

variable (g : Spacing) (level : Nat) (v w : Json) (vs : List Json) (k : String) (m : String × Json)
  (ms : List (String × Json)) (rest : List Char)

theorem spreadChars_array : spreadChars g level (.array (v :: vs)) ++ rest =
    '[' :: (spreadItems g (level + 1) (v :: vs) ++ (g.line level ++ ']' :: rest)) := by
  have harray : spreadChars g level (.array (v :: vs)) =
      '[' :: spreadItems g (level + 1) (v :: vs) ++ g.line level ++ [']'] := rfl
  simp [harray]

theorem spreadChars_object : spreadChars g level (.object (m :: ms)) ++ rest =
    '{' :: (spreadMembers g (level + 1) (m :: ms) ++ (g.line level ++ '}' :: rest)) := by
  have hobject : spreadChars g level (.object (m :: ms)) =
      '{' :: spreadMembers g (level + 1) (m :: ms) ++ g.line level ++ ['}'] := rfl
  simp [hobject]

theorem spreadItems_singleton :
    spreadItems g level [v] = g.line level ++ spreadChars g level v := rfl

theorem spreadItems_cons : spreadItems g level (v :: w :: vs) =
    g.line level ++ spreadChars g level v ++ ',' :: spreadItems g level (w :: vs) := rfl

theorem spreadMembers_singleton : spreadMembers g level [(k, v)] =
    g.line level ++ quote k ++ ':' :: g.space ++ spreadChars g level v := rfl

theorem spreadMembers_cons : spreadMembers g level ((k, v) :: m :: ms) =
    g.line level ++ quote k ++ ':' :: g.space ++ spreadChars g level v ++
      ',' :: spreadMembers g level (m :: ms) := rfl

theorem length_spreadChars_array : (spreadChars g level (.array (v :: vs))).length =
    (spreadItems g (level + 1) (v :: vs)).length + (g.line level).length + 2 := by
  rw [← List.append_nil (spreadChars g level _), spreadChars_array]
  simp; omega

theorem length_spreadChars_object : (spreadChars g level (.object (m :: ms))).length =
    (spreadMembers g (level + 1) (m :: ms)).length + (g.line level).length + 2 := by
  rw [← List.append_nil (spreadChars g level _), spreadChars_object]
  simp; omega

theorem length_spreadItems_singleton :
    (spreadChars g level v).length ≤ (spreadItems g level [v]).length := by
  simp [spreadItems_singleton]

theorem length_spreadItems_cons :
    (spreadChars g level v).length + (spreadItems g level (w :: vs)).length + 1 ≤
      (spreadItems g level (v :: w :: vs)).length := by
  simp [spreadItems_cons]; omega

theorem length_spreadMembers_singleton :
    (spreadChars g level v).length ≤ (spreadMembers g level [(k, v)]).length := by
  simp [spreadMembers_singleton]; omega

theorem length_spreadMembers_cons :
    (spreadChars g level v).length + (spreadMembers g level (m :: ms)).length + 1 ≤
      (spreadMembers g level ((k, v) :: m :: ms)).length := by
  simp [spreadMembers_cons]; omega

end Texts

mutual

theorem spreadChars_compact (level : Nat) :
    (v : Json) → spreadChars .compact level v = compactChars v
  | .null | .bool true | .bool false | .number _ | .string _ | .array [] | .object [] => by
    simp [spreadChars, compactChars, compactItems, compactMembers]
  | .array (v :: vs) => by
    simp [spreadChars, compactChars, spreadItems_compact (level + 1) (v :: vs)]
  | .object (m :: ms) => by
    simp [spreadChars, compactChars, spreadMembers_compact (level + 1) (m :: ms)]

theorem spreadItems_compact (level : Nat) :
    (vs : List Json) → spreadItems .compact level vs = compactItems vs
  | [] => rfl
  | [v] => by simp [spreadItems, compactItems, spreadChars_compact level v]
  | v :: w :: vs => by
    simp [spreadItems, compactItems, spreadChars_compact level v,
      spreadItems_compact level (w :: vs)]

theorem spreadMembers_compact (level : Nat) :
    (ms : List (String × Json)) → spreadMembers .compact level ms = compactMembers ms
  | [] => rfl
  | [(k, v)] => by
    simp [spreadMembers, compactMembers, spreadChars_compact level v]
  | (k, v) :: m :: ms => by
    simp [spreadMembers, compactMembers, spreadChars_compact level v,
      spreadMembers_compact level (m :: ms)]

end

mutual

theorem spreadChars_pretty (level : Nat) :
    (v : Json) → spreadChars .pretty level v = prettyChars level v
  | .null | .bool true | .bool false | .number _ | .string _ | .array [] | .object [] => by
    simp [spreadChars, prettyChars]
  | .array (v :: vs) => by
    simp [spreadChars, prettyChars, spreadItems_pretty (level + 1) (v :: vs)]
  | .object (m :: ms) => by
    simp [spreadChars, prettyChars, spreadMembers_pretty (level + 1) (m :: ms)]

theorem spreadItems_pretty (level : Nat) :
    (vs : List Json) → spreadItems .pretty level vs = prettyItems level vs
  | [] => rfl
  | [v] => by simp [spreadItems, prettyItems, spreadChars_pretty level v]
  | v :: w :: vs => by
    simp [spreadItems, prettyItems, spreadChars_pretty level v, spreadItems_pretty level (w :: vs)]

theorem spreadMembers_pretty (level : Nat) :
    (ms : List (String × Json)) → spreadMembers .pretty level ms = prettyMembers level ms
  | [] => rfl
  | [(k, v)] => by simp [spreadMembers, prettyMembers, spreadChars_pretty level v]
  | (k, v) :: m :: ms => by
    simp [spreadMembers, prettyMembers, spreadChars_pretty level v,
      spreadMembers_pretty level (m :: ms)]

end

end AnalyzerClient.Json
