import AnalyzerClient.Dict
import AnalyzerClient.OsError
import AnalyzerClient.Text.Numeral
import AnalyzerClient.Text.Utf8

/-!
# Terminals

A terminal is a shell that reads what is typed into it. It is open until it is waited for or
disposed of, and then nothing can be typed any more.
-/

namespace AnalyzerClient.Terminal

/-- How a terminal is opened. -/
structure Options where
  name : String
  directory : String
  environment : Dict String := []
  deriving DecidableEq, Repr, Inhabited

/-- What can go wrong with a terminal. -/
inductive Error where
  /-- Its shell could not be started. -/
  | spawn (shell : String) (cause : OsError)
  /-- It is not open any more. -/
  | closed (id : Nat)
  deriving DecidableEq, Repr

/-- The wording of an error. -/
def Error.message : Error → String
  | .spawn shell cause => "failed to start shell " ++ shell ++ ": " ++ cause.message
  | .closed id => "terminal TerminalId(" ++ Text.Numeral.render id ++ ") is closed"

/-- The failure behind an error, in words. -/
def Error.cause? : Error → Option String
  | .spawn _ cause => some cause.message
  | .closed _ => none

/-- How far a terminal has come. -/
inductive Phase where
  | running
  | waited
  | disposed
  deriving DecidableEq, Repr

/-- A terminal with its number and what was typed into it. -/
structure Session where
  id : Nat
  options : Options
  phase : Phase
  /-- Nothing can be typed although the terminal is open. -/
  deaf : Bool
  typed : List UInt8
  deriving DecidableEq, Repr

namespace Session

/-- A terminal as it is opened. -/
def opened (id : Nat) (options : Options) (deaf : Bool) : Session :=
  ⟨id, options, .running, deaf, []⟩

/-- The title of a terminal. -/
def title (s : Session) : String := s.options.name

/-- The octets of a text as it is typed. -/
def keys (text : String) (newline : Bool) : List UInt8 :=
  Text.Utf8.encode text ++ if newline then [10] else []

/-- Types a text. -/
def send (s : Session) (text : String) (newline : Bool) : Except Error Unit × Session :=
  if s.phase = .running ∧ s.deaf = false then
    (.ok (), { s with typed := s.typed ++ keys text newline })
  else (.error (.closed s.id), s)

/-- Closes a terminal at once. What is closed stays as it is. -/
def dispose (s : Session) : Session :=
  if s.phase = .running then { s with phase := .disposed } else s

/-- Ends the input of a terminal and waits for the status with which its shell ends. -/
def wait (s : Session) (status : Int) : Except Error Int × Session :=
  if s.phase = .running then (.ok status, { s with phase := .waited })
  else (.error (.closed s.id), s)

end Session

end AnalyzerClient.Terminal
