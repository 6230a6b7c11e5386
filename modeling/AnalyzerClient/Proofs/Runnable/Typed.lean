import AnalyzerClient.Runnable.Command
import Mathlib.Data.List.Forall2

/-!
# What a shell makes of a command line

A shell cuts a line at blanks, and takes what stands in single quotes as it is
(`Terminal.shellWords?`). The command line of a task is cut into its program and its arguments again
exactly if the first argument of the executable, which is put in quotes as it is, holds no quote
(`Runnable.shellWords?_commandLine_iff`).
-/

namespace AnalyzerClient

/-! ## Words of a shell -/

namespace Terminal

/-- Where the splitting of a line stands. -/
inductive Splitting where
  | between
  /-- In a word of which so much was read. -/
  | word (read : List Char)
  /-- Inside quotes in a word of which so much was read. -/
  | quotes (read : List Char)

/-- Whether a character ends a word outside of quotes. -/
def endsWord (c : Char) : Bool := c = ' ' || c = '\t' || c = '\n'

/-- The words of the rest of a line. There are none when a quote is left open. -/
def splitFrom : Splitting → List Char → Option (List (List Char))
  | .between, [] => some []
  | .word read, [] => some [read]
  | .quotes _, [] => none
  | .between, c :: cs =>
    if endsWord c then splitFrom .between cs
    else if c = '\'' then splitFrom (.quotes []) cs
    else splitFrom (.word [c]) cs
  | .word read, c :: cs =>
    if endsWord c then (splitFrom .between cs).map (read :: ·)
    else if c = '\'' then splitFrom (.quotes read) cs
    else splitFrom (.word (read ++ [c])) cs
  | .quotes read, c :: cs =>
    if c = '\'' then splitFrom (.word read) cs else splitFrom (.quotes (read ++ [c])) cs

/-- The words of a line, as a shell cuts it at blanks and single quotes. -/
def shellWords? (line : String) : Option (List String) :=
  (splitFrom .between line.toList).map (·.map String.ofList)

variable {cs read rest : List Char} {c : Char} {state : Splitting} {words tokens : List (List Char)}

/-- A character that stands for itself outside of quotes, and ends no word. -/
def isOrdinary (c : Char) : Bool := !endsWord c && c ≠ '\''

theorem splitFrom_ordinary (h : ∀ c ∈ cs, isOrdinary c = true) :
    splitFrom (.word read) (cs ++ rest) = splitFrom (.word (read ++ cs)) rest := by
  induction cs generalizing read with
  | nil => rw [List.nil_append, List.append_nil]
  | cons c cs ih =>
    obtain ⟨hends, hquote⟩ : endsWord c = false ∧ c ≠ '\'' := by
      simpa [isOrdinary] using h c List.mem_cons_self
    rw [List.cons_append, splitFrom, if_neg (by simp [hends]), if_neg hquote,
      ih fun a ha => h a (List.mem_cons_of_mem _ ha), List.append_assoc, List.singleton_append]

theorem splitFrom_quotes (h : '\'' ∉ cs) :
    splitFrom (.quotes read) (cs ++ '\'' :: rest) = splitFrom (.word (read ++ cs)) rest := by
  induction cs generalizing read with
  | nil => rw [List.nil_append, List.append_nil, splitFrom, if_pos rfl]
  | cons c cs ih =>
    obtain ⟨hc, hcs⟩ := not_or.mp (mt List.mem_cons.mpr h)
    rw [List.cons_append, splitFrom, if_neg (Ne.symm hc), ih hcs, List.append_assoc,
      List.singleton_append]

/-- A text that a shell reads as one word, if the word ends behind it. -/
def Spells (text word : List Char) : Prop :=
  ∀ rest, splitFrom .between (text ++ rest) = splitFrom (.word word) rest

theorem Spells.ordinary (hne : cs ≠ []) (h : ∀ c ∈ cs, isOrdinary c = true) : Spells cs cs := by
  intro rest
  obtain ⟨c, cs, rfl⟩ := List.exists_cons_of_ne_nil hne
  obtain ⟨hends, hquote⟩ : endsWord c = false ∧ c ≠ '\'' := by
    simpa [isOrdinary] using h c List.mem_cons_self
  rw [List.cons_append, splitFrom, if_neg (by simp [hends]), if_neg hquote,
    splitFrom_ordinary fun a ha => h a (List.mem_cons_of_mem _ ha), List.singleton_append]

theorem Spells.inQuotes (h : '\'' ∉ cs) : Spells ('\'' :: cs ++ ['\'']) cs := by
  intro rest
  rw [List.append_assoc, List.cons_append, List.singleton_append, splitFrom,
    if_neg (by decide), if_pos rfl, splitFrom_quotes h, List.nil_append]

/-- Words that are joined with spaces are cut apart again. -/
theorem splitFrom_intercalate (h : List.Forall₂ Spells tokens words) :
    splitFrom .between ([' '].intercalate tokens) = some words := by
  induction h with
  | nil => rfl
  | @cons token word tokens words hspells hrest ih =>
    cases tokens with
    | nil =>
      cases hrest
      rw [List.intercalate_singleton, ← List.append_nil token, hspells, splitFrom]
    | cons next tokens =>
      rw [List.intercalate_cons_cons, List.append_assoc, hspells, List.singleton_append, splitFrom,
        if_pos (by decide), ih, Option.map_some]

/-- No quote was taken for a part of a word. -/
def Splitting.Quoteless : Splitting → Prop
  | .between => True
  | .word read | .quotes read => '\'' ∉ read

theorem quoteless_concat (h : '\'' ∉ read) (hc : c ≠ '\'') : '\'' ∉ read ++ [c] := by
  simpa [h] using hc.symm

/-- A quote is never a part of a word. -/
theorem quote_not_mem_of_splitFrom (h : splitFrom state cs = some words)
    (hstate : state.Quoteless) : ∀ word ∈ words, '\'' ∉ word := by
  -- On the rest of the line; what was read of a word so far has no quote.
  induction cs generalizing state words with
  | nil =>
    cases state with
    | between => cases h; nofun
    | word read => cases h; exact List.forall_mem_singleton.mpr hstate
    | quotes read => cases h
  | cons c cs ih =>
    cases state with
    | between =>
      rw [splitFrom] at h
      split at h
      · exact ih h trivial
      · split at h
        · exact ih h List.not_mem_nil
        · next hc => exact ih h (quoteless_concat List.not_mem_nil hc)
    | word read =>
      rw [splitFrom] at h
      split at h
      · obtain ⟨rest, hrest, rfl⟩ := Option.map_eq_some_iff.mp h
        exact List.forall_mem_cons.mpr ⟨hstate, ih hrest trivial⟩
      · split at h
        · exact ih h hstate
        · next hc => exact ih h (quoteless_concat hstate hc)
    | quotes read =>
      rw [splitFrom] at h
      split at h
      · exact ih h hstate
      · next hc => exact ih h (quoteless_concat hstate hc)

/-! ## Plain words -/

/-- A letter or a digit, one of the marks that stand for themselves, or a character outside of
ASCII, as letters of other scripts are. -/
def isPlain (c : Char) : Bool :=
  c.isAlphanum || ['-', '_', '.', '/', ':', '='].contains c || 128 ≤ c.toNat

/-- A word of plain characters. -/
structure PlainWord (word : String) : Prop where
  ne_empty : word ≠ ""
  plain : ∀ c ∈ word.toList, isPlain c = true

theorem plainWord_iff {word : String} :
    PlainWord word ↔ word ≠ "" ∧ word.toList.all isPlain = true := by
  rw [List.all_eq_true]
  exact ⟨fun h => ⟨h.ne_empty, h.plain⟩, fun h => ⟨h.1, h.2⟩⟩

instance (word : String) : Decidable (PlainWord word) := decidable_of_iff' _ plainWord_iff

theorem isOrdinary_of_isPlain (h : isPlain c = true) : isOrdinary c = true := by
  by_contra hc
  have hmark : ((c = ' ' ∨ c = '\t') ∨ c = '\n') ∨ c = '\'' := by
    simpa [isOrdinary, endsWord, or_iff_not_imp_left] using hc
  rcases hmark with ((rfl | rfl) | rfl) | rfl <;> cases h

theorem PlainWord.spells {word : String} (h : PlainWord word) : Spells word.toList word.toList :=
  .ordinary (by simpa using h.ne_empty) fun c hc => isOrdinary_of_isPlain (h.plain c hc)

theorem forall₂_spells {args : List String} (h : ∀ arg ∈ args, PlainWord arg) :
    List.Forall₂ Spells (args.map String.toList) (args.map String.toList) := by
  induction args with
  | nil => exact .nil
  | cons arg args ih =>
    exact .cons (h arg List.mem_cons_self).spells (ih fun a ha => h a (List.mem_cons_of_mem _ ha))

end Terminal

/-! ## Command lines -/

namespace Runnable

open Terminal (PlainWord Spells forall₂_spells quote_not_mem_of_splitFrom shellWords?
  splitFrom_intercalate)

variable {r : Runnable} {task : BuildTask} {first : String} {others : List String}

theorem toList_joinTokens (program : String) (tokens : List String) :
    (joinTokens program tokens).toList =
      [' '].intercalate ((program :: tokens).map String.toList) := by
  rw [joinTokens, String.toList_intercalate]
  rfl

/-- A shell cuts the command line of a task into the program, the arguments of the build tool, the
separator and the arguments of the executable, all as they are, if and only if there is no quote in
the first argument of the executable. -/
theorem shellWords?_commandLine_iff (htask : r.task = .build task)
    (hargs : task.executableArgs = first :: others) (hprogram : PlainWord r.program)
    (htool : ∀ arg ∈ task.toolArgs, PlainWord arg) (hothers : ∀ arg ∈ others, PlainWord arg) :
    shellWords? r.commandLine =
        some (r.program :: task.toolArgs ++ argsSeparator :: first :: others) ↔
      '\'' ∉ first.toList := by
  constructor
  · intro h
    -- Whatever the quotes of the line do, no word that is read from it holds one.
    obtain ⟨words, hwords, heq⟩ := Option.map_eq_some_iff.mp h
    have hfirst : first ∈ words.map String.ofList := by rw [heq]; simp
    obtain ⟨word, hword, rfl⟩ := List.mem_map.mp hfirst
    rw [String.toList_ofList]
    exact quote_not_mem_of_splitFrom hwords trivial word hword
  · intro h
    have hseparator : PlainWord argsSeparator := by decide
    have htokens : r.task.runTokens =
        task.toolArgs ++ argsSeparator :: ("'" ++ first ++ "'") :: others := by
      rw [htask, Task.runTokens, BuildTask.runTokens, BuildTask.executableTokens, hargs]
    have hquoted : Spells ("'" ++ first ++ "'").toList first.toList := by
      simpa using Spells.inQuotes h
    -- Each token of the line spells its word, the quoted one too.
    have hspells : List.Forall₂ Spells
        ((r.program :: r.task.runTokens).map String.toList)
        ((r.program :: task.toolArgs ++ argsSeparator :: first :: others).map String.toList) := by
      rw [htokens, List.cons_append, List.map_cons, List.map_cons, List.map_append, List.map_append]
      exact .cons hprogram.spells (List.rel_append (forall₂_spells htool)
        (.cons hseparator.spells (.cons hquoted (forall₂_spells hothers))))
    have hsplit := splitFrom_intercalate hspells
    rw [← toList_joinTokens] at hsplit
    rw [shellWords?, commandLine, hsplit]
    simp

/-- A single test, by its name. -/
def namedTest (name : String) : Runnable where
  label := "test " ++ name
  location := none
  task := .build {
    workspaceRoot := none
    executableArgs := [name, "--exact"]
    toolArgs := ["test", "--package", "core"]
    overrideTool := none
    environment := none
    directory := "/w" }

theorem shellWords?_commandLine_iff_namedTest :
    shellWords? (namedTest "a b\n; $HOME # \"c\\").commandLine =
        some ["webby", "test", "--package", "core", "--", "a b\n; $HOME # \"c\\", "--exact"] ∧
      shellWords? (namedTest "it's").commandLine ≠
        some ["webby", "test", "--package", "core", "--", "it's", "--exact"] := by
  have hprogram : PlainWord "webby" := by decide
  have htool : ∀ arg ∈ ["test", "--package", "core"], PlainWord arg := by decide
  have hothers : ∀ arg ∈ ["--exact"], PlainWord arg := by decide
  have hcut (name : String) :=
    shellWords?_commandLine_iff (r := namedTest name) rfl rfl hprogram htool hothers
  exact ⟨(hcut _).mpr (by decide), fun h => (hcut _).mp h (by decide)⟩

/-- The quote that is left open takes in the rest of the line. -/
example : shellWords? (namedTest "it's").commandLine = none := by decide

end Runnable

end AnalyzerClient
