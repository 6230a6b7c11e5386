import AnalyzerClient.Terminal.Session

/-!
# The run terminal

A slot holds at most one terminal. A terminal that is replaced is disposed of before the next one is
opened, and when the next one does not open the slot stays empty. Terminals are numbered in the
order of the attempts to open them. The journal says what happened to the terminals, the oldest
first.
-/

namespace AnalyzerClient.Terminal

/-- What happened to a terminal. -/
inductive Event where
  /-- Somebody tried to open it. -/
  | created (id : Nat) (options : Options)
  /-- Somebody tried to type a text. -/
  | sent (id : Nat) (text : String) (newline : Bool)
  | editMode (id : Nat)
  | disposed (id : Nat)
  deriving DecidableEq, Repr

/-- What becomes of an attempt to open a terminal. -/
inductive Opening where
  /-- Its shell cannot be started. -/
  | fails (shell : String) (cause : OsError)
  | opens (deaf : Bool)
  deriving DecidableEq, Repr

/-- The terminal that is there, the number of the next one, and what happened. -/
structure Slot where
  current : Option Session
  nextId : Nat
  journal : List Event
  deriving DecidableEq, Repr

namespace Slot

/-- The slot in the beginning. -/
def empty : Slot := ⟨none, 1, []⟩

/-- Adds an event to the journal. -/
def record (s : Slot) (e : Event) : Slot := { s with journal := s.journal ++ [e] }

/-- Disposes of the terminal and leaves the slot empty. -/
def clear (s : Slot) : Slot :=
  match s.current with
  | none => s
  | some session => { s with current := none, journal := s.journal ++ [.disposed session.id] }

/-- Opens a terminal in an empty slot. -/
def create (s : Slot) (options : Options) (opening : Opening) : Except Error Nat × Slot :=
  let id := s.nextId
  let tried := { s with nextId := id + 1, journal := s.journal ++ [.created id options] }
  match opening with
  | .fails shell cause => (.error (.spawn shell cause), tried)
  | .opens deaf => (.ok id, { tried with current := some (.opened id options deaf) })

/-- Puts a new terminal in place of the present one, and gives its number. -/
def replace (s : Slot) (options : Options) (opening : Opening) : Except Error Nat × Slot :=
  s.clear.create options opening

/-- Types a text into the present terminal. -/
def send (s : Slot) (text : String) (newline : Bool) : Option (Except Error Unit) × Slot :=
  match s.current with
  | none => (none, s)
  | some session =>
    let (result, session) := session.send text newline
    (some result, { s with current := some session }.record (.sent session.id text newline))

/-- Makes the present terminal ready for the user's input. -/
def editMode (s : Slot) : Option Unit × Slot :=
  match s.current with
  | none => (none, s)
  | some session => (some (), s.record (.editMode session.id))

/-- Types a command line into the present terminal, and makes it ready for input if asked to and if
the text was accepted. -/
def typeCommand (s : Slot) (command : String) (edit : Bool) : Option (Except Error Unit) × Slot :=
  match s.send command true with
  | (some (.ok ()), s) => (some (.ok ()), if edit then s.editMode.2 else s)
  | other => other

/-- Disposes of the present terminal, which stays in the slot. -/
def dispose (s : Slot) : Option Unit × Slot :=
  match s.current with
  | none => (none, s)
  | some session =>
    (some (), { s with current := some session.dispose }.record (.disposed session.id))

/-- Takes the terminal out of the slot. -/
def take (s : Slot) : Option Session × Slot := (s.current, { s with current := none })

/-- The number of the present terminal. -/
def currentId (s : Slot) : Option Nat := s.current.map (·.id)

end Slot

end AnalyzerClient.Terminal
