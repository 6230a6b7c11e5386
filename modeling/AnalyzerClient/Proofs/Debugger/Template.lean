import AnalyzerClient.Debugger.Runtime
import Mathlib.Data.List.Basic
import Mathlib.Data.List.Infix

/-!
# Templates as they are cut

The placeholders of a template cut it in one way only (`Cutting.Of.unique`), and at every place
where a placeholder occurs (`Cutting.Of.exists_join`). A template is rendered by putting the values
at the cuts and keeping all texts between them, so that nothing is replaced inside a value or where
a value meets a text (`renderTemplate_cutting`).
-/

namespace AnalyzerClient.Debugger

/-- What a template can ask for. -/
inductive Placeholder where
  | executable
  | args
  deriving DecidableEq, Repr

namespace Placeholder

/-- What stands in a template for a placeholder. -/
def name : Placeholder → List Char
  | .executable => ['$', 'e', 'x', 'e']
  | .args => ['$', 'a', 'r', 'g', 's']

/-- What is put in for a placeholder: the executable in double quotes, or the arguments, each in
double quotes, with commas between them. -/
def value (target : Target) : Placeholder → List Char
  | .executable => '"' :: target.executable.toList ++ ['"']
  | .args =>
    [','].intercalate ((Text.words target.args).map fun word => '"' :: word.toList ++ ['"'])

/-- A placeholder begins with a dollar sign and has no other. -/
theorem exists_name (p : Placeholder) : ∃ letters, p.name = '$' :: letters ∧ '$' ∉ letters := by
  cases p <;> exact ⟨_, rfl, by decide⟩

theorem name_append_inj {p p' : Placeholder} {rest rest' : List Char}
    (h : p.name ++ rest = p'.name ++ rest') : p = p' ∧ rest = rest' := by
  cases p with
  | executable =>
    cases p' with
    | executable => exact ⟨rfl, List.append_cancel_left h⟩
    | args => cases h
  | args =>
    cases p' with
    | executable => cases h
    | args => exact ⟨rfl, List.append_cancel_left h⟩

end Placeholder

open Placeholder (name value exists_name name_append_inj)

variable {p p' : Placeholder} {text text' rest rest' before after template exe args : List Char}
  {a : Char}

/-! ## Texts without placeholders -/

/-- A text in which no placeholder occurs. -/
def Bare (text : List Char) : Prop := ∀ p : Placeholder, ¬ p.name <:+: text

namespace Bare

theorem nil : Bare [] := by
  intro p h
  cases p <;> cases List.infix_nil.mp h

theorem tail (h : Bare (a :: text)) : Bare text := fun p hp => h p (List.infix_cons hp)

theorem cons (h : Bare text) (ha : ∀ p : Placeholder, ¬ p.name <+: a :: text) :
    Bare (a :: text) := fun p hp => (List.infix_cons_iff.mp hp).elim (ha p) (h p)

/-- No placeholder begins in a bare text and ends behind it: it would go over the dollar sign of the
next one, and only the first character of a placeholder is a dollar sign. -/
theorem not_prefix (h : Bare (a :: text)) (p p' : Placeholder) (rest : List Char) :
    ¬ p.name <+: a :: text ++ (p'.name ++ rest) := by
  intro hp
  obtain ⟨letters, hname, hletters⟩ := exists_name p
  obtain ⟨letters', hname', -⟩ := exists_name p'
  rcases Nat.lt_or_ge (a :: text).length p.name.length with hlt | hle
  -- Longer than the text, it holds the next dollar sign, and not as its first character.
  · have hdollar : a :: text ++ ['$'] <+: a :: text ++ (p'.name ++ rest) := by
      rw [hname']
      exact (List.prefix_append_right_inj _).mpr ⟨letters' ++ rest, rfl⟩
    have hover : a :: (text ++ ['$']) <+: '$' :: letters := by
      rw [← hname]
      exact List.prefix_of_prefix_length_le hdollar hp (by simpa using Nat.succ_le_of_lt hlt)
    exact hletters ((List.cons_prefix_cons.mp hover).2.subset (by simp))
  · exact h p (List.prefix_of_prefix_length_le hp (List.prefix_append ..) hle).isInfix

/-- The first cut of a text is where its first placeholder stands. -/
theorem append_inj (h : Bare text) (h' : Bare text')
    (heq : text ++ (p.name ++ rest) = text' ++ (p'.name ++ rest')) :
    text = text' ∧ p = p' ∧ rest = rest' := by
  induction text generalizing text' with
  | nil =>
    cases text' with
    | nil => exact ⟨rfl, name_append_inj heq⟩
    | cons a text' => exact absurd (heq ▸ List.prefix_append ..) (h'.not_prefix p p' rest')
  | cons a text ih =>
    cases text' with
    | nil => exact absurd (heq ▸ List.prefix_append ..) (h.not_prefix p' p rest)
    | cons b text' =>
      obtain ⟨rfl, htail⟩ := List.cons.inj heq
      obtain ⟨rfl, hrest⟩ := ih h.tail h'.tail htail
      exact ⟨rfl, hrest⟩

end Bare

/-! ## Cuttings -/

/-- A text that is cut at placeholders. -/
inductive Cutting where
  | whole (text : List Char)
  | cut (text : List Char) (p : Placeholder) (rest : Cutting)

namespace Cutting

variable {c c' front back : Cutting}

/-- The text of a cutting, with something at every cut. -/
def fill (put : Placeholder → List Char) : Cutting → List Char
  | .whole text => text
  | .cut text p rest => text ++ (put p ++ rest.fill put)

/-- No placeholder occurs between the cuts. -/
def AllBare : Cutting → Prop
  | .whole text => Bare text
  | .cut text _ rest => Bare text ∧ rest.AllBare

/-- Two cuttings with a placeholder between them. -/
def join : Cutting → Placeholder → Cutting → Cutting
  | .whole text, p, back => .cut text p back
  | .cut text q rest, p, back => .cut text q (rest.join p back)

/-- A cutting with one character more in front. -/
def push (a : Char) : Cutting → Cutting
  | .whole text => .whole (a :: text)
  | .cut text p rest => .cut (a :: text) p rest

/-- A cutting cuts a template where its placeholders occur, and nowhere else. -/
structure Of (c : Cutting) (template : List Char) : Prop where
  names : c.fill name = template
  bare : c.AllBare

theorem fill_join (put : Placeholder → List Char) (p : Placeholder) (back : Cutting) :
    (c : Cutting) → (c.join p back).fill put = c.fill put ++ (put p ++ back.fill put)
  | .whole _ => rfl
  | .cut text q rest => by simp [join, fill, fill_join put p back rest]

theorem AllBare.join (hback : back.AllBare) (p : Placeholder) :
    (c : Cutting) → c.AllBare → (c.join p back).AllBare
  | .whole _, h => ⟨h, hback⟩
  | .cut _ _ rest, h => ⟨h.1, hback.join p rest h.2⟩

namespace Of

theorem join (hfront : front.Of before) (p : Placeholder) (hback : back.Of after) :
    (front.join p back).Of (before ++ (p.name ++ after)) where
  names := by rw [fill_join, hfront.names, hback.names]
  bare := hback.bare.join p front hfront.bare

theorem push (h : c.Of text) (ha : ∀ p : Placeholder, ¬ p.name <+: a :: text) :
    (c.push a).Of (a :: text) := by
  obtain ⟨rfl, hbare⟩ := h
  cases c with
  | whole text => exact ⟨rfl, Bare.cons hbare ha⟩
  | cut text q rest =>
    refine ⟨rfl, Bare.cons hbare.1 fun p hp => ha p ?_, hbare.2⟩
    exact hp.trans (List.prefix_append (a :: text) _)

/-- A cut stands at an occurrence of its placeholder. -/
theorem infix_cut (h : (cut text p back).Of template) : p.name <:+: template :=
  ⟨text, back.fill name, by rw [List.append_assoc]; exact h.names⟩

/-- The placeholders that occur in a template leave no choice of where to cut it. -/
theorem unique (h : c.Of template) (h' : c'.Of template) : c = c' := by
  induction c generalizing c' template with
  | whole text =>
    obtain ⟨rfl, hbare⟩ := h
    cases c' with
    | whole text' => exact congrArg whole h'.names.symm
    | cut text' p' rest' => exact absurd h'.infix_cut (hbare p')
  | cut text p rest ih =>
    cases c' with
    | whole text' =>
      obtain ⟨rfl, hbare'⟩ := h'
      exact absurd h.infix_cut (hbare' p)
    | cut text' p' rest' =>
      -- The first cuts are the same, and what is behind them is cut in the same way.
      obtain ⟨rfl, hbare⟩ := h
      obtain ⟨rfl, rfl, hrest⟩ := h'.bare.1.append_inj hbare.1 h'.names
      rw [ih ⟨rfl, hbare.2⟩ ⟨hrest, h'.bare.2⟩]

end Of

/-- Every template can be cut. -/
theorem exists_of (template : List Char) : ∃ c : Cutting, c.Of template := by
  induction hn : template.length using Nat.strongRecOn generalizing template with
  | ind n ih =>
    subst hn
    -- Either a placeholder stands in front, and the rest behind it is cut, or a character does.
    by_cases hp : ∃ p : Placeholder, p.name <+: template
    · obtain ⟨p, rest, rfl⟩ := hp
      obtain ⟨letters, hname, -⟩ := exists_name p
      have hlt : rest.length < (p.name ++ rest).length := by
        rw [List.length_append, hname, List.length_cons]
        omega
      obtain ⟨c, hc⟩ := ih rest.length hlt rest rfl
      have hnone : (whole []).Of [] := ⟨rfl, Bare.nil⟩
      exact ⟨_, hnone.join p hc⟩
    · cases template with
      | nil => exact ⟨.whole [], rfl, Bare.nil⟩
      | cons a text =>
        obtain ⟨c, hc⟩ := ih text.length (Nat.lt_succ_self _) text rfl
        exact ⟨c.push a, hc.push fun p h => hp ⟨p, h⟩⟩

/-- Every occurrence of a placeholder in a template is a cut. -/
theorem Of.exists_join (h : c.Of (before ++ (p.name ++ after))) :
    ∃ front back : Cutting, c = front.join p back ∧ front.Of before ∧ back.Of after := by
  obtain ⟨front, hfront⟩ := exists_of before
  obtain ⟨back, hback⟩ := exists_of after
  exact ⟨front, back, h.unique (hfront.join p hback), hfront, hback⟩

end Cutting

/-! ## Rendering -/

/-- What a substitution puts at a placeholder. -/
def pick (exe args : List Char) : Placeholder → List Char
  | .executable => exe
  | .args => args

theorem substitute_name (exe args : List Char) (p : Placeholder) (rest : List Char) :
    substitute exe args (p.name ++ rest) = pick exe args p ++ substitute exe args rest := by
  cases p <;> simp [name, substitute, pick]

theorem substitute_cons (exe args : List Char) (h : ∀ p : Placeholder, ¬ p.name <+: a :: text) :
    substitute exe args (a :: text) = a :: substitute exe args text := by
  rw [substitute]
  · rintro rest rfl rfl
    exact h .executable ⟨rest, rfl⟩
  · rintro rest rfl rfl
    exact h .args ⟨rest, rfl⟩

theorem substitute_bare (h : Bare text) : substitute exe args text = text := by
  induction text with
  | nil => rfl
  | cons a text ih => rw [substitute_cons exe args fun p hp => h p hp.isInfix, ih h.tail]

theorem substitute_cut (h : Bare text) (p : Placeholder) (rest : List Char) :
    substitute exe args (text ++ (p.name ++ rest)) =
      text ++ (pick exe args p ++ substitute exe args rest) := by
  induction text with
  | nil => exact substitute_name exe args p rest
  | cons a text ih =>
    have hstep := substitute_cons exe args fun p' => h.not_prefix p' p rest
    exact hstep.trans (congrArg (a :: ·) (ih h.tail))

theorem substitute_fill (exe args : List Char) : (c : Cutting) → c.AllBare →
    substitute exe args (c.fill name) = c.fill (pick exe args)
  | .whole _, h => substitute_bare h
  | .cut text p rest, h => by
    rw [Cutting.fill, substitute_cut h.1, substitute_fill exe args rest h.2, Cutting.fill]

theorem pick_eq_value (target : Target) :
    pick (quoted target.executable.toList) (quotedWords target.args.toList) = value target := by
  funext p
  cases p with
  | executable => rfl
  | args =>
    have hword : (fun word => '"' :: word.toList ++ ['"']) ∘ String.ofList = quoted := by
      funext cs
      rw [Function.comp_apply, String.toList_ofList, quoted]
    rw [pick, value, quotedWords, Text.words, List.map_map, hword]

/-- A template is cut in exactly one way at the placeholders that occur in it, and at all of them.
For every target it is rendered as the texts between the cuts, unchanged, with the values of the
placeholders at the cuts. -/
theorem renderTemplate_cutting (template : String) : ∃ c : Cutting, c.Of template.toList ∧
    (∀ c' : Cutting, c'.Of template.toList → c' = c) ∧
    (∀ before p after, template.toList = before ++ (name p ++ after) → ∃ front back : Cutting,
      c = front.join p back ∧ front.Of before ∧ back.Of after) ∧
    ∀ target, (renderTemplate template target).toList = c.fill (value target) := by
  obtain ⟨c, hc⟩ := Cutting.exists_of template.toList
  refine ⟨c, hc, fun c' hc' => hc'.unique hc, ?_, ?_⟩
  · intro before p after h
    exact Cutting.Of.exists_join (h ▸ hc)
  · intro target
    rw [renderTemplate, String.toList_ofList, ← hc.names, substitute_fill _ _ c hc.bare,
      pick_eq_value]

example : renderTemplate "$$exe $ex $args$" ⟨"$args", "a $exe"⟩ =
    "$\"$args\" $ex \"a\",\"$exe\"$" := by decide

end AnalyzerClient.Debugger
