import AnalyzerClient.Terminal.Session
import Mathlib.Data.List.Basic

/-!
# The line to a shell

A terminal as it is built. What its owner types goes into a queue; a writer takes it out and writes
it into a pipe, of which the shell reads, all of them in pieces and at their own pace. The owner
holds the end of the queue that is typed into, the writer, and the process of the shell, and gives
them up one by one in closing the terminal. A `Step` is one action of one of the three, and a `Run`
any sequence of steps.

As long as the shell does not quit before the end of its input, `Line.Sound` holds in every run
(`Run.sound`): nothing that was typed is lost before the terminal is disposed of, and the owner
waits for the shell once at most. The writer and the shell come to an end of what they can do by
themselves (`Run.length_add_work_le`).
-/

namespace AnalyzerClient.Terminal

/-- What the writer of a terminal does. -/
inductive Writer where
  | waiting
  /-- It has still to write these octets of what it took out of the queue. -/
  | writing (left : List UInt8)
  /-- It ended. With it the pipe is closed, and nothing can be put into the queue. -/
  | gone

/-- What a writer took out of the queue and did not write yet. -/
def Writer.left : Writer → List UInt8
  | .writing left => left
  | _ => []

/-- How far the shell of a terminal is. -/
inductive Process where
  | reading
  /-- It ended with this status, or without one by a signal. -/
  | exited (status : Option Int)

/-- How far the owner of a terminal is with waiting for its end. -/
inductive Waiting where
  /-- It does not wait. -/
  | idle
  /-- The writer is to end first. -/
  | draining
  /-- The writer is done with, and the process is next. -/
  | drained
  | reaping
  | finished (result : Except Error (Option Int))

/-- A terminal between its owner, its writer and its shell. -/
structure Line where
  id : Nat
  /-- Whether the owner can put something into the queue. -/
  sender : Bool
  /-- Whether the owner holds the writer. -/
  writerHeld : Bool
  /-- Whether the owner holds the process of the shell. -/
  processHeld : Bool
  waiting : Waiting
  queue : List (List UInt8)
  writer : Writer
  /-- Whether the writer was asked to end. -/
  aborted : Bool
  pipe : List UInt8
  process : Process
  killed : Bool
  /-- What the shell read. -/
  received : List UInt8

namespace Line

/-- The line of a terminal that was just opened. -/
def fresh (id : Nat) : Line :=
  ⟨id, true, true, true, .idle, [], .waiting, false, [], .reading, false, []⟩

/-- Types a text, which is put into the queue. -/
def send (s : Line) (text : String) (newline : Bool) : Except Error Unit × Line :=
  match s.sender, s.writer with
  | false, _ | _, .gone => (.error (.closed s.id), s)
  | true, _ => (.ok (), { s with queue := s.queue ++ [Session.keys text newline] })

/-- Closes a terminal at once: the writer is asked to end, and the shell is killed. -/
def dispose (s : Line) : Line :=
  { s with
    sender := false
    writerHeld := false
    aborted := s.aborted || s.writerHeld
    processHeld := false
    killed := s.killed || s.processHeld }

/-- Closes the queue, to wait for the end of the shell. -/
def beginWait (s : Line) : Line :=
  { s with
    sender := false
    writerHeld := false
    waiting := if s.writerHeld then .draining else .drained }

/-- Goes on to wait for the process of the shell, if the owner holds it. -/
def reap (s : Line) : Line :=
  if s.processHeld then { s with processHeld := false, waiting := .reaping }
  else { s with waiting := .finished (.error (.closed s.id)) }

/-- What the owner of a terminal, its writer and its shell do. -/
inductive Action where
  | send (text : String) (newline : Bool) (result : Except Error Unit)
  | dispose
  | beginWait
  | endWait (result : Except Error (Option Int))
  | drain
  | reap
  | collect
  | take
  | write (part : List UInt8)
  | flush
  | close
  | breakOff
  | vanish
  | read (part : List UInt8)
  | exit (code : Int)
  | quit (status : Option Int)
  | die
  deriving DecidableEq

/-- One action. At most `room` octets fit into the pipe. -/
inductive Step (room : Nat) (s : Line) : Action → Line → Prop
  | send (text : String) (newline : Bool) (idle : s.waiting = .idle) :
    Step room s (.send text newline (s.send text newline).1) (s.send text newline).2
  | dispose (idle : s.waiting = .idle) : Step room s .dispose s.dispose
  | beginWait (idle : s.waiting = .idle) : Step room s .beginWait s.beginWait
  | endWait {result : Except Error (Option Int)} (finished : s.waiting = .finished result) :
    Step room s (.endWait result) { s with waiting := .idle }
  | drain (draining : s.waiting = .draining) (gone : s.writer = .gone) :
    Step room s .drain { s with waiting := .drained }
  | reap (drained : s.waiting = .drained) : Step room s .reap s.reap
  | collect {status : Option Int} (reaping : s.waiting = .reaping)
      (exited : s.process = .exited status) :
    Step room s .collect { s with waiting := .finished (.ok status) }
  | take {data : List UInt8} {queue : List (List UInt8)} (waiting : s.writer = .waiting)
      (next : s.queue = data :: queue) :
    Step room s .take { s with queue := queue, writer := .writing data }
  | write {part left : List UInt8} (writing : s.writer = .writing (part ++ left))
      (some : part ≠ []) (fits : s.pipe.length + part.length ≤ room) :
    Step room s (.write part) { s with writer := .writing left, pipe := s.pipe ++ part }
  | flush (written : s.writer = .writing []) : Step room s .flush { s with writer := .waiting }
  /-- The writer ends when nothing is left in the queue and nothing can come. -/
  | close (waiting : s.writer = .waiting) (empty : s.queue = []) (closed : s.sender = false) :
    Step room s .close { s with writer := .gone }
  /-- The writer ends because nobody reads what it writes. -/
  | breakOff {left : List UInt8} {status : Option Int} (writing : s.writer = .writing left)
      (some : left ≠ []) (exited : s.process = .exited status) :
    Step room s .breakOff { s with writer := .gone }
  | vanish (aborted : s.aborted = true) (present : s.writer ≠ .gone) :
    Step room s .vanish { s with writer := .gone }
  | read {part rest : List UInt8} (reading : s.process = .reading) (pipe : s.pipe = part ++ rest)
      (some : part ≠ []) :
    Step room s (.read part) { s with pipe := rest, received := s.received ++ part }
  /-- The shell ends behind the end of its input. -/
  | exit (code : Int) (reading : s.process = .reading) (empty : s.pipe = [])
      (closed : s.writer = .gone) :
    Step room s (.exit code) { s with process := .exited (some code) }
  /-- The shell ends before the end of its input. -/
  | quit (status : Option Int) (reading : s.process = .reading) :
    Step room s (.quit status) { s with process := .exited status }
  | die (killed : s.killed = true) (reading : s.process = .reading) :
    Step room s .die { s with process := .exited none }

/-- Any number of actions. -/
inductive Run (room : Nat) : Line → List Action → Line → Prop
  | done (s : Line) : Run room s [] s
  | step {s s' s'' : Line} {action : Action} {actions : List Action}
      (first : Step room s action s') (rest : Run room s' actions s'') :
    Run room s (action :: actions) s''

namespace Action

/-- An action that closes a terminal. -/
def closes : Action → Bool
  | .dispose | .beginWait => true
  | _ => false

/-- What was typed in an action. -/
def keys : Action → List UInt8
  | .send text newline (.ok ()) => Session.keys text newline
  | _ => []

/-- Whether an action is one of the writer, of the shell, or of the owner while it waits. -/
def isInner : Action → Bool
  | .send .. | .dispose | .beginWait | .endWait _ => false
  | _ => true

/-- Whether a shell ends before the end of its input by an action. -/
def quits : Action → Bool
  | .quit _ => true
  | _ => false

end Action

/-- The shell reads all of its input: it ends only when there is no more, or when it is killed. -/
def Attentive (actions : List Action) : Prop := ∀ a ∈ actions, a.quits = false

/-- The actions that closed a terminal. -/
def closings (actions : List Action) : List Action := actions.filter Action.closes

/-- What was typed into a terminal. -/
def typed (actions : List Action) : List UInt8 := actions.flatMap Action.keys

variable {room id : Nat} {s s' : Line} {a : Action} {actions : List Action}

/-! ## What holds in every run -/

variable {past : List Action} {keys : List UInt8}

/-- What the owner of a terminal holds after the actions `past` that close it. -/
structure Owned (past : List Action) (s : Line) : Prop where
  opened : past = [] →
    s.sender = true ∧ s.writerHeld = true ∧ s.processHeld = true ∧ s.waiting = .idle
  closed : past ≠ [] → s.sender = false ∧ s.writerHeld = false
  /-- The process is held until the first wait comes to it. -/
  process : past ≠ [] → (s.processHeld = true ↔
    past = [.beginWait] ∧ (s.waiting = .draining ∨ s.waiting = .drained))
  draining : s.waiting = .draining → past = [.beginWait]
  reaping : s.waiting = .reaping → past = [.beginWait]

/-- What the owner of a terminal knows in waiting: only the first wait comes to the process, and
then the writer has ended. -/
structure Awaited (id : Nat) (past : List Action) (s : Line) : Prop where
  drained : s.waiting = .drained → past = [.beginWait] → s.writer = .gone
  reaping : s.waiting = .reaping → s.writer = .gone
  finished : ∀ result, s.waiting = .finished result →
    if past = [.beginWait] then ∃ status, s.process = .exited status ∧ result = .ok status
    else result = .error (.closed id)

/-- Where the octets are that were typed before a terminal was disposed of, when its shell reads all
of its input. -/
structure Flow (past : List Action) (keys : List UInt8) (s : Line) : Prop where
  undisturbed : s.aborted = false ∧ s.killed = false
  /-- Nothing is lost. -/
  conserved : s.received ++ (s.pipe ++ (s.writer.left ++ s.queue.flatten)) = keys
  opened : past = [] → s.writer ≠ .gone
  emptied : s.writer = .gone → s.queue = []
  ended : ∀ status, s.process = .exited status →
    (∃ code, status = some code) ∧ s.pipe = [] ∧ s.writer = .gone

/-- What holds of a terminal when `past` are the actions that closed it, and `keys` was typed. -/
structure Sound (id : Nat) (past : List Action) (keys : List UInt8) (s : Line) : Prop where
  id_eq : s.id = id
  owned : Owned past s
  awaited : Awaited id past s
  flow : past.head? ≠ some .dispose → Flow past keys s

theorem sound_fresh (id : Nat) : Sound id [] [] (fresh id) where
  id_eq := rfl
  owned :=
    ⟨fun _ => ⟨rfl, rfl, rfl, rfl⟩, fun h => absurd rfl h, fun h => absurd rfl h, nofun, nofun⟩
  awaited := ⟨nofun, nofun, nofun⟩
  flow _ := ⟨⟨rfl, rfl⟩, rfl, nofun, nofun, nofun⟩

/-- An action of the writer or of the shell. -/
structure Apart (s s' : Line) : Prop where
  id_eq : s'.id = s.id
  sender : s'.sender = s.sender
  writerHeld : s'.writerHeld = s.writerHeld
  processHeld : s'.processHeld = s.processHeld
  waiting : s'.waiting = s.waiting
  gone : s.writer = .gone → s'.writer = .gone
  exited : ∀ status, s.process = .exited status → s'.process = .exited status

namespace Apart

theorem owned (h : Apart s s') (hs : Owned past s) : Owned past s' where
  opened hpast := by
    rw [h.sender, h.writerHeld, h.processHeld, h.waiting]
    exact hs.opened hpast
  closed hpast := by
    rw [h.sender, h.writerHeld]
    exact hs.closed hpast
  process hpast := by
    rw [h.processHeld, h.waiting]
    exact hs.process hpast
  draining hwaiting := hs.draining (h.waiting.symm.trans hwaiting)
  reaping hwaiting := hs.reaping (h.waiting.symm.trans hwaiting)

theorem awaited (h : Apart s s') (hs : Awaited id past s) : Awaited id past s' where
  drained hwaiting hpast := h.gone (hs.drained (h.waiting.symm.trans hwaiting) hpast)
  reaping hwaiting := h.gone (hs.reaping (h.waiting.symm.trans hwaiting))
  finished result hwaiting := by
    have hfinished := hs.finished result (h.waiting.symm.trans hwaiting)
    split at hfinished
    · next hpast =>
      obtain ⟨status, hexited, hresult⟩ := hfinished
      rw [if_pos hpast]
      exact ⟨status, h.exited status hexited, hresult⟩
    · next hpast =>
      rw [if_neg hpast]
      exact hfinished

end Apart

/-- Whether an action is one of the owner. -/
def Action.isOwners : Action → Bool
  | .send .. | .dispose | .beginWait | .endWait _ | .drain | .reap | .collect => true
  | _ => false

theorem Step.apart (h : Step room s a s') (ha : a.isOwners = false) : Apart s s' := by
  cases h with
  | send | dispose | beginWait | endWait | drain | reap | collect => cases ha
  | take hbusy | write hbusy | flush hbusy =>
    exact ⟨rfl, rfl, rfl, rfl, rfl, (by rw [hbusy]; exact nofun), fun _ h => h⟩
  | close | breakOff | vanish => exact ⟨rfl, rfl, rfl, rfl, rfl, fun _ => rfl, fun _ h => h⟩
  | read => exact ⟨rfl, rfl, rfl, rfl, rfl, fun h => h, fun _ h => h⟩
  | exit _ hreading | quit _ hreading | die _ hreading =>
    exact ⟨rfl, rfl, rfl, rfl, rfl, fun h => h, fun _ h => by cases hreading.symm.trans h⟩

namespace Flow

/-- A writer that is at work has a shell that reads. -/
theorem not_exited (h : Flow past keys s) (hwriter : s.writer ≠ .gone) (status : Option Int) :
    s.process ≠ .exited status := fun hexited => hwriter (h.ended status hexited).2.2

/-- A writer that goes on with its work keeps everything in order. -/
theorem of_busy (h : Flow past keys s) (hbusy : s.writer ≠ .gone) (hstill : s'.writer ≠ .gone)
    (hprocess : s'.process = s.process)
    (hundisturbed : s'.aborted = s.aborted ∧ s'.killed = s.killed)
    (hconserved : s'.received ++ (s'.pipe ++ (s'.writer.left ++ s'.queue.flatten)) =
      s.received ++ (s.pipe ++ (s.writer.left ++ s.queue.flatten))) : Flow past keys s' where
  undisturbed := by
    rw [hundisturbed.1, hundisturbed.2]
    exact h.undisturbed
  conserved := hconserved.trans h.conserved
  opened _ := hstill
  emptied hgone := absurd hgone hstill
  ended status hexited := absurd (hprocess.symm.trans hexited) (h.not_exited hbusy status)

/-- The writer and the shell pass on what was typed. -/
theorem apart (h : Flow past keys s) (hs : Owned past s) (hstep : Step room s a s')
    (ha : a.isOwners = false) (hquit : a.quits = false) : Flow past keys s' := by
  cases hstep with
  | send | dispose | beginWait | endWait | drain | reap | collect => cases ha
  | quit => cases hquit
  | take hwaiting hnext =>
    refine h.of_busy (by rw [hwaiting]; exact nofun) nofun rfl ⟨rfl, rfl⟩ ?_
    rw [hwaiting, hnext]
    rfl
  | write hwriting =>
    refine h.of_busy (by rw [hwriting]; exact nofun) nofun rfl ⟨rfl, rfl⟩ ?_
    rw [hwriting]
    simp only [Writer.left, List.append_assoc]
  | flush hwritten =>
    refine h.of_busy (by rw [hwritten]; exact nofun) nofun rfl ⟨rfl, rfl⟩ ?_
    rw [hwritten]
    rfl
  | close hwaiting hempty hclosed =>
    have hpresent : s.writer ≠ .gone := by rw [hwaiting]; exact nofun
    refine ⟨h.undisturbed, ?_, fun hpast => ?_, fun _ => hempty, fun status hexited =>
      absurd hexited (h.not_exited hpresent status)⟩
    · rw [← h.conserved, hwaiting]
      rfl
    · rw [(hs.opened hpast).1] at hclosed
      cases hclosed
  | breakOff hwriting _ hexited =>
    have hpresent : s.writer ≠ .gone := by rw [hwriting]; exact nofun
    exact absurd hexited (h.not_exited hpresent _)
  | vanish haborted =>
    rw [h.undisturbed.1] at haborted
    cases haborted
  | read hreading hpipe =>
    refine ⟨h.undisturbed, ?_, h.opened, h.emptied, fun status hexited => ?_⟩
    · rw [← h.conserved, hpipe]
      simp only [List.append_assoc]
    · cases hreading.symm.trans hexited
  | exit code hreading hempty hgone =>
    refine ⟨h.undisturbed, h.conserved, h.opened, h.emptied, fun status hexited => ?_⟩
    cases hexited
    exact ⟨⟨code, rfl⟩, hempty, hgone⟩
  | die hkilled =>
    rw [h.undisturbed.2] at hkilled
    cases hkilled

end Flow

theorem send_of_open (hsender : s.sender = true) (hwriter : s.writer ≠ .gone) (text : String)
    (newline : Bool) : s.send text newline =
      (.ok (), { s with queue := s.queue ++ [Session.keys text newline] }) := by
  unfold send
  rw [hsender]
  cases hs : s.writer with
  | gone => exact absurd hs hwriter
  | waiting | writing => rfl

theorem send_of_closed (hsender : s.sender = false) (text : String) (newline : Bool) :
    s.send text newline = (.error (.closed s.id), s) := by
  unfold send
  rw [hsender]

/-- Closing a closed terminal at once has no effect. -/
theorem Owned.dispose_eq (h : Owned past s) (hpast : past ≠ []) (idle : s.waiting = .idle) :
    s.dispose = s := by
  obtain ⟨hsender, hwriter⟩ := h.closed hpast
  have hprocess : s.processHeld = false := by
    rw [← Bool.not_eq_true, h.process hpast, idle]
    exact nofun
  obtain ⟨id, sender, writerHeld, processHeld, waiting, queue, writer, aborted, pipe, process,
    killed, received⟩ := s
  subst hsender hwriter hprocess
  simp only [dispose, Bool.or_false]

/-- What goes on apart from the owner stays as it is when a closed terminal is closed again. -/
theorem Flow.closed_again (h : Flow past keys s) (a : Action) : Flow (past ++ [a]) keys s :=
  ⟨h.undisturbed, h.conserved, fun hpast => absurd hpast (by simp), h.emptied, h.ended⟩

/-- Only what the owner holds and waits for is different. -/
theorem Flow.of_owner (h : Flow past keys s) (sender writerHeld processHeld : Bool)
    (waiting : Waiting) : Flow past keys { s with
      sender := sender
      writerHeld := writerHeld
      processHeld := processHeld
      waiting := waiting } :=
  ⟨h.undisturbed, h.conserved, h.opened, h.emptied, h.ended⟩

namespace Sound

theorem send (h : Sound id past keys s) (text : String) (newline : Bool) :
    Sound id past (keys ++ (Action.send text newline (s.send text newline).1).keys)
      (s.send text newline).2 := by
  by_cases hpast : past = []
  · subst hpast
    have hflow := h.flow nofun
    rw [send_of_open (h.owned.opened rfl).1 (hflow.opened rfl)]
    refine ⟨h.id_eq, ⟨h.owned.opened, h.owned.closed, h.owned.process, h.owned.draining,
      h.owned.reaping⟩, ⟨h.awaited.drained, h.awaited.reaping, h.awaited.finished⟩, fun _ => ?_⟩
    refine ⟨hflow.undisturbed, ?_, hflow.opened, fun hgone => absurd hgone (hflow.opened rfl),
      hflow.ended⟩
    rw [← hflow.conserved]
    simp [Action.keys]
  · rw [send_of_closed (h.owned.closed hpast).1]
    exact (List.append_nil keys).symm ▸ h

theorem dispose (h : Sound id past keys s) (idle : s.waiting = .idle) :
    Sound id (past ++ [.dispose]) keys s.dispose where
  id_eq := h.id_eq
  owned := by
    have hidle : s.dispose.waiting = .idle := idle
    refine ⟨fun hpast => absurd hpast (by simp), fun _ => ⟨rfl, rfl⟩, fun _ => ?_, ?_, ?_⟩
    · exact ⟨nofun, fun h => absurd h.1 (by simp [List.append_eq_singleton_iff])⟩
    · rw [hidle]; exact nofun
    · rw [hidle]; exact nofun
  awaited := by
    have hidle : s.dispose.waiting = .idle := idle
    refine ⟨?_, ?_, ?_⟩ <;> rw [hidle] <;> exact nofun
  flow hhead := by
    have hpast : past ≠ [] := by
      rintro rfl
      exact hhead rfl
    rw [List.head?_append_of_ne_nil _ hpast] at hhead
    rw [h.owned.dispose_eq hpast idle]
    exact (h.flow hhead).closed_again _

theorem beginWait (h : Sound id past keys s) (idle : s.waiting = .idle) :
    Sound id (past ++ [.beginWait]) keys s.beginWait := by
  by_cases hpast : past = []
  -- The first wait is for the writer.
  · subst hpast
    obtain ⟨-, hwriter, hprocess, -⟩ := h.owned.opened rfl
    have hwaiting : s.beginWait.waiting = .draining := by rw [Line.beginWait, hwriter]; rfl
    have hheld : s.beginWait.processHeld = true := hprocess
    refine ⟨h.id_eq, ⟨nofun, fun _ => ⟨rfl, rfl⟩, fun _ => ?_, fun _ => rfl, ?_⟩, ⟨?_, ?_, ?_⟩,
      fun _ => ?_⟩
    · rw [hheld, hwaiting]
      exact iff_of_true rfl ⟨rfl, .inl rfl⟩
    iterate 4 rw [hwaiting]; exact nofun
    exact ((h.flow nofun).closed_again _).of_owner ..
  -- Another one finds the process gone.
  · obtain ⟨-, hwriter⟩ := h.owned.closed hpast
    have hwaiting : s.beginWait.waiting = .drained := by rw [Line.beginWait, hwriter]; rfl
    have hheld : s.beginWait.processHeld = false := by
      rw [← Bool.not_eq_true, Line.beginWait, h.owned.process hpast, idle]
      exact nofun
    have hfirst : past ++ [Action.beginWait] ≠ [.beginWait] := by
      simp [hpast]
    refine ⟨h.id_eq, ⟨fun h => absurd h (by simp), fun _ => ⟨rfl, rfl⟩, fun _ => ?_, ?_, ?_⟩,
      ⟨fun _ h => absurd h hfirst, ?_, ?_⟩, fun hhead => ?_⟩
    · rw [hheld]
      exact iff_of_false nofun fun h => hfirst h.1
    iterate 4 rw [hwaiting]; exact nofun
    rw [List.head?_append_of_ne_nil _ hpast] at hhead
    exact ((h.flow hhead).closed_again _).of_owner ..

theorem drain (h : Sound id past keys s) (hdraining : s.waiting = .draining)
    (hgone : s.writer = .gone) : Sound id past keys { s with waiting := .drained } := by
  have hpast := h.owned.draining hdraining
  refine ⟨h.id_eq, ⟨fun h => ?_, h.owned.closed, fun hne => ?_, nofun, nofun⟩,
    ⟨fun _ _ => hgone, nofun, nofun⟩, fun hhead => (h.flow hhead).of_owner ..⟩
  · rw [hpast] at h
    cases h
  · rw [h.owned.process hne, hdraining]
    exact and_congr_right fun _ => ⟨fun _ => .inr rfl, fun _ => .inl rfl⟩

theorem reap (h : Sound id past keys s) (hdrained : s.waiting = .drained) :
    Sound id past keys s.reap := by
  have hpast : past ≠ [] := fun hpast => by
    cases hdrained.symm.trans (h.owned.opened hpast).2.2.2
  have hheld := h.owned.process hpast
  rw [Line.reap]
  split
  · next hprocess =>
    obtain ⟨hfirst, -⟩ := hheld.mp hprocess
    refine ⟨h.id_eq, ⟨fun h => absurd h hpast, h.owned.closed, fun _ => ?_, nofun, fun _ => hfirst⟩,
      ⟨nofun, fun _ => h.awaited.drained hdrained hfirst, nofun⟩,
      fun hhead => (h.flow hhead).of_owner ..⟩
    exact iff_of_false nofun fun h => by rcases h.2 with h | h <;> cases h
  · next hprocess =>
    have hfirst : past ≠ [.beginWait] := fun hfirst =>
      hprocess (hheld.mpr ⟨hfirst, .inr hdrained⟩)
    refine ⟨h.id_eq, ⟨fun h => absurd h hpast, h.owned.closed, fun _ => ?_, nofun, nofun⟩,
      ⟨nofun, nofun, fun result hfinished => ?_⟩, fun hhead => (h.flow hhead).of_owner ..⟩
    · exact iff_of_false hprocess fun h => hfirst h.1
    · cases hfinished
      rw [if_neg hfirst, h.id_eq]

theorem collect (h : Sound id past keys s) {status : Option Int} (hreaping : s.waiting = .reaping)
    (hexited : s.process = .exited status) :
    Sound id past keys { s with waiting := .finished (.ok status) } := by
  have hfirst := h.owned.reaping hreaping
  refine ⟨h.id_eq, ⟨fun h => ?_, h.owned.closed, fun hne => ?_, nofun, nofun⟩,
    ⟨nofun, nofun, fun result hfinished => ?_⟩, fun hhead => (h.flow hhead).of_owner ..⟩
  · rw [hfirst] at h
    cases h
  · rw [h.owned.process hne, hreaping]
    exact and_congr_right fun _ => by simp
  · cases hfinished
    rw [if_pos hfirst]
    exact ⟨status, hexited, rfl⟩

theorem endWait (h : Sound id past keys s) {result : Except Error (Option Int)}
    (hfinished : s.waiting = .finished result) :
    Sound id past keys { s with waiting := .idle } := by
  have hpast : past ≠ [] := fun hpast => by
    cases hfinished.symm.trans (h.owned.opened hpast).2.2.2
  refine ⟨h.id_eq, ⟨fun h => absurd h hpast, h.owned.closed, fun hne => ?_, nofun, nofun⟩,
    ⟨nofun, nofun, nofun⟩, fun hhead => (h.flow hhead).of_owner ..⟩
  rw [h.owned.process hne, hfinished]
  exact and_congr_right fun _ => by simp

/-- Every action keeps a terminal sound, unless the shell stops reading its input. -/
theorem step (h : Sound id past keys s) (hstep : Step room s a s') (hquit : a.quits = false) :
    Sound id (past ++ closings [a]) (keys ++ a.keys) s' := by
  have silent {t : Line} (h : Sound id past keys t) (hkeys : a.keys = [])
      (hcloses : a.closes = false) : Sound id (past ++ closings [a]) (keys ++ a.keys) t := by
    rw [hkeys, closings, List.filter_cons_of_neg (by rw [hcloses]; decide)]
    simpa using h
  cases howner : a.isOwners with
  | false =>
    have hapart := hstep.apart howner
    refine silent ⟨hapart.id_eq.trans h.id_eq, hapart.owned h.owned, hapart.awaited h.awaited,
      fun hhead => (h.flow hhead).apart h.owned hstep howner hquit⟩ ?_ ?_
    · cases a <;> first | rfl | cases howner
    · cases a <;> first | rfl | cases howner
  | true =>
    cases hstep with
    | send text newline => simpa [closings, Action.closes] using h.send text newline
    | dispose idle => exact (List.append_nil keys).symm ▸ h.dispose idle
    | beginWait idle => exact (List.append_nil keys).symm ▸ h.beginWait idle
    | endWait hfinished => exact silent (h.endWait hfinished) rfl rfl
    | drain hdraining hgone => exact silent (h.drain hdraining hgone) rfl rfl
    | reap hdrained => exact silent (h.reap hdrained) rfl rfl
    | collect hreaping hexited => exact silent (h.collect hreaping hexited) rfl rfl
    | _ => cases howner

theorem run (h : Sound id past keys s) (hrun : Run room s actions s')
    (hattentive : Attentive actions) :
    Sound id (past ++ closings actions) (keys ++ typed actions) s' := by
  induction hrun generalizing past keys with
  | done => simpa [closings, typed] using h
  | @step s t s' a actions hfirst _ ih =>
    obtain ⟨hquit, hrest⟩ := List.forall_mem_cons.mp hattentive
    have hlast := ih (h.step hfirst hquit) hrest
    rw [List.append_assoc, List.append_assoc, closings, closings, ← List.filter_append] at hlast
    exact hlast

end Sound

theorem Run.sound (h : Run room (fresh id) actions s) (hattentive : Attentive actions) :
    Sound id (closings actions) (typed actions) s := (sound_fresh id).run h hattentive

/-! ## The end of what goes on inside -/

/-- How much the writer, the shell and an owner that waits for them have still to do. -/
def work (s : Line) : Nat :=
  2 * (s.queue.flatten.length + s.writer.left.length) + 2 * s.queue.length + s.pipe.length +
    (match s.writer with
      | .writing _ => 2
      | .waiting => 1
      | .gone => 0) +
    (match s.process with
      | .reading => 1
      | .exited _ => 0) +
    (match s.waiting with
      | .draining => 3
      | .drained => 2
      | .reaping => 1
      | .idle | .finished _ => 0)

theorem Step.work_lt (h : Step room s a s') (ha : a.isInner = true) : s'.work < s.work := by
  cases h with
  | send | dispose | beginWait | endWait => cases ha
  | drain hdraining => simp only [work, hdraining]; omega
  | reap hdrained =>
    rw [Line.reap]
    split <;> simp only [work, hdrained] <;> omega
  | collect hreaping => simp only [work, hreaping]; omega
  | take hwaiting hnext =>
    simp only [work, hwaiting, hnext, Writer.left, List.flatten_cons, List.length_append,
      List.length_cons, List.length_nil]
    omega
  | @write part left hwriting hsome =>
    have hpos := List.length_pos_iff.mpr hsome
    simp only [work, hwriting, Writer.left, List.length_append]
    omega
  | flush hwritten => simp only [work, hwritten, Writer.left]; omega
  | close hwaiting => simp only [work, hwaiting, Writer.left]; omega
  | breakOff hwriting => simp only [work, hwriting, Writer.left, List.length_nil]; omega
  | vanish _ hpresent =>
    cases hwriter : s.writer with
    | gone => exact absurd hwriter hpresent
    | waiting | writing => simp only [work, hwriter, Writer.left, List.length_nil]; omega
  | @read part rest _ hpipe hsome =>
    have hpos := List.length_pos_iff.mpr hsome
    simp only [work, hpipe, List.length_append]
    omega
  | exit _ hreading | quit _ hreading | die _ hreading => simp only [work, hreading]; omega

end Line

end AnalyzerClient.Terminal
