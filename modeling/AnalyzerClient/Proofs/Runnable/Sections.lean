import AnalyzerClient.Runnable.Command
import Mathlib.Data.List.TakeWhile

/-!
# The two sections of a command

The first separator of a command ends the section of the build tool and begins that of the
executable (`Sections`). The command that builds an executable is the command that runs it with
changes in the first section only (`BuildTask.debugTokens_sections`).
-/

namespace AnalyzerClient

variable {args args' tool program : List String}

/-- Arguments are cut at the first separator, which belongs to the section of the executable. -/
structure Sections (args tool program : List String) : Prop where
  whole : args = tool ++ program
  tool : argsSeparator ∉ tool
  program : ∀ arg ∈ program.head?, arg = argsSeparator

namespace Sections

theorem of_takeWhile (args : List String) :
    Sections args (args.takeWhile (· != argsSeparator)) (args.dropWhile (· != argsSeparator)) where
  whole := List.takeWhile_append_dropWhile.symm
  tool := by
    intro hmem
    simpa using List.mem_takeWhile_imp hmem
  program := by
    intro arg harg
    have hhead := List.head?_dropWhile_not (· != argsSeparator) args
    rw [Option.mem_def.mp harg] at hhead
    simpa using hhead

theorem takeWhile_eq (h : Sections args tool program) :
    args.takeWhile (· != argsSeparator) = tool := by
  have htool : ∀ arg ∈ tool, (arg != argsSeparator) = true := by
    intro arg harg
    simpa using ne_of_mem_of_not_mem harg h.tool
  rw [h.whole, List.takeWhile_append_of_pos htool]
  cases hprogram : program with
  | nil => simp
  | cons arg rest => simp [h.program arg (by rw [hprogram]; rfl)]

theorem dropWhile_eq (h : Sections args tool program) :
    args.dropWhile (· != argsSeparator) = program := by
  have hcut : tool ++ args.dropWhile (· != argsSeparator) = tool ++ program := by
    rw [← h.takeWhile_eq, List.takeWhile_append_dropWhile, h.takeWhile_eq, h.whole]
  exact List.append_cancel_left hcut

end Sections

/-- What the section of the build tool becomes when it is to build instead of run. -/
inductive Builds : List String → List String → Prop
  | run (rest : List String) : Builds ("run" :: rest) ("build" :: rest)
  | test {rest : List String} (h : noRunFlag ∉ "test" :: rest) :
    Builds ("test" :: rest) ("test" :: rest ++ [noRunFlag])
  | same {args : List String} (hrun : args.head? ≠ some "run")
    (htest : args.head? = some "test" → noRunFlag ∈ args) : Builds args args

namespace Builds

theorem no_separator (h : Builds args args') (hargs : argsSeparator ∉ args) :
    argsSeparator ∉ args' := by
  cases h with
  | run rest =>
    intro hmem
    rcases List.mem_cons.mp hmem with heq | hrest
    · exact absurd heq (by decide)
    · exact hargs (List.mem_cons_of_mem _ hrest)
  | test h =>
    intro hmem
    rcases List.mem_append.mp hmem with hmem | hflag
    · exact hargs hmem
    · exact absurd (List.mem_singleton.mp hflag) (by decide)
  | same => exact hargs

theorem buildInstead_eq (h : Builds args args') : BuildTask.buildInstead args = args' := by
  cases h with
  | run rest => rfl
  | test h =>
    have hrest := mt (List.mem_cons_of_mem "test") h
    simp [BuildTask.buildInstead, hrest]
  | same hrun htest =>
    unfold BuildTask.buildInstead
    split
    · exact absurd rfl hrun
    · rw [if_pos (by simpa [noRunFlag] using htest rfl)]
    · rfl

theorem of_buildInstead (args : List String) : Builds args (BuildTask.buildInstead args) := by
  unfold BuildTask.buildInstead
  split
  · exact .run _
  · next rest =>
    split
    · next hflag =>
      have hmem : noRunFlag ∈ rest := by simpa using hflag
      exact .same (by simp) fun _ => List.mem_cons_of_mem _ hmem
    · next hflag =>
      have hmem : noRunFlag ∉ rest := by simpa using hflag
      refine .test fun h => ?_
      rcases List.mem_cons.mp h with heq | h
      · exact absurd heq (by decide)
      · exact hmem h
  · next hrun htest =>
    refine .same ?_ ?_
    · intro hhead
      obtain ⟨rest, hargs⟩ := List.head?_eq_some_iff.mp hhead
      exact (hrun rest hargs).elim
    · intro hhead
      obtain ⟨rest, hargs⟩ := List.head?_eq_some_iff.mp hhead
      exact (htest rest hargs).elim

end Builds

namespace BuildTask

variable {task : BuildTask}

theorem debugTokens_eq (h : Sections task.runTokens tool program) :
    task.debugTokens = buildInstead tool ++ reportFlag :: program := by
  rw [debugTokens, h.takeWhile_eq, h.dropWhile_eq]

theorem head_executableTokens : ∀ arg ∈ task.executableTokens.head?, arg = argsSeparator := by
  unfold executableTokens
  split <;> simp

/-- What stands behind a separator among the arguments of the build tool comes before what the task
has for the executable. -/
theorem sections_toolArgs (h : Sections task.runTokens tool program) :
    ∃ own, Sections task.toolArgs tool own ∧ program = own ++ task.executableTokens := by
  have hown := Sections.of_takeWhile task.toolArgs
  have hrun : Sections task.runTokens (task.toolArgs.takeWhile (· != argsSeparator))
      (task.toolArgs.dropWhile (· != argsSeparator) ++ task.executableTokens) := by
    refine ⟨?_, hown.tool, ?_⟩
    · rw [runTokens, ← List.append_assoc, ← hown.whole]
    · intro arg harg
      rw [List.head?_append, Option.mem_def, Option.or_eq_some_iff] at harg
      rcases harg with harg | ⟨-, harg⟩
      · exact hown.program arg harg
      · exact head_executableTokens arg harg
  refine ⟨_, ?_, h.dropWhile_eq.symm.trans hrun.dropWhile_eq⟩
  rw [← h.takeWhile_eq, hrun.takeWhile_eq]
  exact hown

/-- The command that builds what a task runs has the sections of the command that runs it: that of
the build tool with its changes and the flag for the report, and that of the executable as it is, in
which only the first argument that the task has for it is quoted. A program's command gets the flag
at its end. -/
theorem debugTokens_sections :
    (∀ task : BuildTask, (∃ tool program, Sections (Task.build task).runTokens tool program) ∧
      ∀ tool program, Sections (Task.build task).runTokens tool program →
        ∃ tool', Builds tool tool' ∧
          (Task.build task).debugTokens = tool' ++ reportFlag :: program ∧
          Sections (Task.build task).debugTokens (tool' ++ [reportFlag]) program ∧
          ∃ own, Sections task.toolArgs tool own ∧
            (task.executableArgs = [] → program = own) ∧
            ∀ first rest, task.executableArgs = first :: rest →
              program = own ++ argsSeparator :: ("'" ++ first ++ "'") :: rest) ∧
      ∀ task : ShellTask, (Task.shell task).debugTokens = task.args ++ [reportFlag] := by
  refine ⟨fun task => ⟨⟨_, _, .of_takeWhile _⟩, ?_⟩, fun _ => rfl⟩
  intro tool program h
  have hbuilds := Builds.of_buildInstead tool
  have htokens : (Task.build task).debugTokens = buildInstead tool ++ reportFlag :: program :=
    debugTokens_eq h
  obtain ⟨own, hown, hprogram⟩ := sections_toolArgs h
  refine ⟨_, hbuilds, htokens, ⟨?_, ?_, h.program⟩, own, hown, ?_, ?_⟩
  · rw [htokens, List.append_assoc, List.singleton_append]
  · intro hmem
    rcases List.mem_append.mp hmem with hmem | hflag
    · exact hbuilds.no_separator h.tool hmem
    · exact absurd (List.mem_singleton.mp hflag) (by decide)
  · intro hargs
    rw [hprogram, executableTokens, hargs, List.append_nil]
  · intro first rest hargs
    rw [hprogram, executableTokens, hargs]

/-- A test with a flag of the build tool behind a separator of its own. -/
def flagBehind : BuildTask where
  workspaceRoot := none
  executableArgs := ["it works", "--exact"]
  toolArgs := ["test", "--lib", "--", "--no-run"]
  overrideTool := none
  environment := none
  directory := "/w"

theorem debugTokens_sections_flagBehind :
    Sections (Task.build flagBehind).runTokens ["test", "--lib"]
        ["--", "--no-run", "--", "'it works'", "--exact"] ∧
      (Task.build flagBehind).debugTokens = ["test", "--lib", "--no-run", "--message-format=json",
        "--", "--no-run", "--", "'it works'", "--exact"] := by
  have h : Sections (Task.build flagBehind).runTokens ["test", "--lib"]
      ["--", "--no-run", "--", "'it works'", "--exact"] := ⟨by decide, by decide, by decide⟩
  obtain ⟨tool', hbuilds, htokens, -⟩ := (debugTokens_sections.1 flagBehind).2 _ _ h
  refine ⟨h, ?_⟩
  rw [htokens, ← hbuilds.buildInstead_eq]
  decide

end BuildTask

end AnalyzerClient
