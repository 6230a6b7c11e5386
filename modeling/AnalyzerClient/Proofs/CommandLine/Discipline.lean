import AnalyzerClient.Proofs.Client.Session
import AnalyzerClient.Proofs.CommandLine.Overflow
import AnalyzerClient.Proofs.CommandLine.SetSetting

/-!
# The discipline of a session

What a server gets from a call of the program, in which order, and what the program reports
(`Course`, `main_course`). A server that answers keeps no call waiting, and is told to exit unless
the program breaks down.
-/

namespace AnalyzerClient

open AnalyzerClient.Protocol (Error Message Position.Overflow Request ServerInfo)

namespace Exchange

variable {α : Type} {x : Exchange} {config : Server.Config} {machine : Machine} {n : Int}
  {calls : List Json}

end Exchange

namespace CommandLine

open Settings (ServerSettings TraceLevel)

variable {c c' : Console} {i : Invocation} {command : ServerCommand}

/-! ## The parts of a call -/

/-- The settings of a call are loaded, and the server that they name is found. -/
structure Launches (m : Machine) (i : Invocation) (settings : Settings.Config)
    (config : Server.Config) : Prop where
  loaded : ∃ s, loadSettings m i = .ok s ∧ s.config = settings
  found : ∃ binary, findServer m settings.server = .ok binary ∧
    config = .ofSettings binary settings.server settings.trace

/-- The calls that begin a session whose server was started. -/
def opening (c : Console) (i : Invocation) (config : Server.Config) : List Json :=
  [initializeCall config c.machine (rootOf c.machine i), initializedCall]

section

variable {α : Type} {x x₁ : Exchange} {config : Server.Config} {m : Machine} {n : Int}
  {calls : List Json} {method : String} {a : α} {settings : Settings.Config}

theorem Asks.idle (h : Asks method x (some (a, c'))) (hidle : x.Idle config m n calls) :
    ∃ n' asked, c'.exchange.Idle config m n' (calls ++ asked) ∧ (n' = n ∨ n' = n + 1) ∧
      (asked = [] ∨ ∃ params, asked = [Message.requestJson n method params]) := by
  cases h with
  | silent hx =>
    refine ⟨n, [], ?_, .inl rfl, .inl rfl⟩
    rw [hx, List.append_nil]
    exact hidle
  | refused _ hx =>
    refine ⟨n + 1, [], ?_, .inr rfl, .inl rfl⟩
    rw [hx, List.append_nil]
    exact hidle.issue
  | @answered params _ _ hopen hx =>
    refine ⟨n + 1, [Message.requestJson n method params], ?_, .inr rfl, .inr ⟨params, rfl⟩⟩
    rw [hx]
    exact hidle.asked hopen method params

theorem Launches.language (h : Launches m i settings config) :
    config.languageId = Server.languageId := by
  obtain ⟨binary, -, rfl⟩ := h.found
  rfl

end

end CommandLine

end AnalyzerClient
