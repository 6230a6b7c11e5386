import AnalyzerClient.Proofs.Debugger.Template
import AnalyzerClient.Proofs.Text.Words
import AnalyzerClient.Runnable.Command

/-!
# The arguments that a debugged program gets

The arguments of a task are handed to the debugger as one text, which is cut at its blanks again.
What arrives are the words of each argument, so that the arguments arrive as they are exactly if
each of them is a word (`Task.programArgs_received`).
-/

namespace AnalyzerClient

open Text (Unbroken words)

namespace Debugger

/-- A text in double quotes. -/
def inQuotes (text : String) : String := "\"" ++ text ++ "\""

theorem renderTemplate_args (target : Target) :
    renderTemplate "$args" target = ",".intercalate ((words target.args).map inQuotes) := by
  have hquoted : String.toList ∘ inQuotes ∘ String.ofList = quoted := by
    funext cs
    simp [inQuotes, quoted]
  rw [← String.toList_inj, renderTemplate, String.toList_ofList, String.toList_intercalate, words,
    List.map_map, List.map_map, Function.comp_assoc, hquoted]
  simp [substitute, quotedWords]

end Debugger

open Debugger (inQuotes renderTemplate renderTemplate_args)

namespace Task

theorem words_programArgs (task : BuildTask) :
    words (Task.build task).programArgs = task.executableArgs.flatMap words :=
  Text.words_intercalate task.executableArgs

/-- What a template for the arguments gives, for a task of the build tool and any executable, are
the words of each argument of the task, in order, each in double quotes and with commas between
them. These are the arguments themselves exactly if every argument is a word. -/
theorem programArgs_received (task : BuildTask) (executable : String) :
    renderTemplate "$args" ⟨executable, (Task.build task).programArgs⟩ =
        ",".intercalate ((task.executableArgs.flatMap words).map inQuotes) ∧
      (task.executableArgs.flatMap words = task.executableArgs ↔
        ∀ arg ∈ task.executableArgs, Unbroken arg) ∧
      ((∀ arg ∈ task.executableArgs, Unbroken arg) →
        renderTemplate "$args" ⟨executable, (Task.build task).programArgs⟩ =
          ",".intercalate (task.executableArgs.map inQuotes)) := by
  have hrender := renderTemplate_args ⟨executable, (Task.build task).programArgs⟩
  rw [words_programArgs] at hrender
  refine ⟨hrender, Text.flatMap_words_eq_self_iff, fun h => ?_⟩
  rw [hrender, Text.flatMap_words_of_unbroken h]

/-- A test with a comma and a placeholder in the arguments of its executable. -/
def filteredTest : BuildTask where
  workspaceRoot := none
  executableArgs := ["tests::a,b", "--skip=$exe", "é"]
  toolArgs := ["test"]
  overrideTool := none
  environment := none
  directory := "/w"

theorem programArgs_received_filteredTest : (∀ arg ∈ filteredTest.executableArgs, Unbroken arg) ∧
    renderTemplate "$args" ⟨"/w/$args", (Task.build filteredTest).programArgs⟩ =
      "\"tests::a,b\",\"--skip=$exe\",\"é\"" := by
  have hwords : ∀ arg ∈ filteredTest.executableArgs, Unbroken arg := by decide
  exact ⟨hwords, (programArgs_received filteredTest "/w/$args").2.2 hwords⟩

end Task

end AnalyzerClient
