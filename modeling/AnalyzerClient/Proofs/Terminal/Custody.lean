import AnalyzerClient.Terminal.Slot
import Mathlib.Data.List.Nodup
import Mathlib.Data.List.Range

/-!
# Who has a terminal

A terminal that was opened for the slot is in the slot, was taken out of it, or gave way to another
one and was disposed of. `Custody` keeps count of this while the slot is used, whatever becomes of
the attempts to open terminals. `Custody.Sound` says that nothing is lost and nothing is in two
places; every operation preserves it (`Custody.Sound.perform`), and what the slot does to terminals
afterwards concerns none of those that left it (`Custody.Sound.events_run`).
-/

namespace AnalyzerClient.Terminal

/-- The number of the terminal to which something happened. -/
def Event.terminal : Event → Nat
  | .created id _ | .sent id _ _ | .editMode id | .disposed id => id

/-- The number of an attempt to open a terminal. -/
def Event.attempt? : Event → Option Nat
  | .created id _ => some id
  | _ => none

/-- Something that is done with the terminal in the slot while it stays there. -/
inductive Use where
  | send (text : String) (newline : Bool)
  | editMode
  | dispose
  | wait (status : Int)

/-- What is done to a slot. -/
inductive Operation where
  | replace (options : Options) (opening : Opening)
  | take
  | withCurrent (uses : List Use)

/-- Whether an operation puts a new terminal in place of the present one. -/
def Operation.isReplace : Operation → Bool
  | .replace .. => true
  | _ => false

namespace Slot

variable {s : Slot}

/-- The slot after something is done with its terminal. -/
def use (s : Slot) : Use → Slot
  | .send text newline => (s.send text newline).2
  | .editMode => s.editMode.2
  | .dispose => s.dispose.2
  | .wait status => { s with current := s.current.map fun session => (session.wait status).2 }

/-- The numbers of the attempts to open a terminal, the first one first. -/
def attempts (s : Slot) : List Nat := s.journal.filterMap Event.attempt?

/-- The second slot has the terminal and the counter of the first one. All that happened in between
happened to that terminal, and none was opened. -/
structure Keeps (s s' : Slot) : Prop where
  currentId : s'.currentId = s.currentId
  nextId : s'.nextId = s.nextId
  journal : ∃ events, s'.journal = s.journal ++ events ∧
    ∀ e ∈ events, s.currentId = some e.terminal ∧ e.attempt? = none

theorem Keeps.refl (s : Slot) : Keeps s s := ⟨rfl, rfl, [], (List.append_nil _).symm, nofun⟩

theorem Keeps.trans {s' s'' : Slot} (h : Keeps s s') (h' : Keeps s' s'') : Keeps s s'' := by
  obtain ⟨events, hjournal, hevents⟩ := h.journal
  obtain ⟨events', hjournal', hevents'⟩ := h'.journal
  refine ⟨h'.currentId.trans h.currentId, h'.nextId.trans h.nextId, events ++ events', ?_, ?_⟩
  · rw [hjournal', hjournal, List.append_assoc]
  · intro e he
    rcases List.mem_append.mp he with he | he
    · exact hevents e he
    · rw [← h.currentId]
      exact hevents' e he

theorem Keeps.attempts {s' : Slot} (h : Keeps s s') : s'.attempts = s.attempts := by
  obtain ⟨events, hjournal, hevents⟩ := h.journal
  have hnone : events.filterMap Event.attempt? = [] :=
    List.filterMap_eq_nil_iff.mpr fun e he => (hevents e he).2
  rw [Slot.attempts, hjournal, List.filterMap_append, hnone, List.append_nil, Slot.attempts]

theorem id_send (session : Session) (text : String) (newline : Bool) :
    (session.send text newline).2.id = session.id := by
  rw [Session.send]
  split <;> rfl

theorem id_dispose (session : Session) : session.dispose.id = session.id := by
  rw [Session.dispose]
  split <;> rfl

theorem id_wait (session : Session) (status : Int) : (session.wait status).2.id = session.id := by
  rw [Session.wait]
  split <;> rfl

theorem keeps_use (s : Slot) (u : Use) : Keeps s (s.use u) := by
  obtain ⟨current, nextId, journal⟩ := s
  cases current with
  | none => cases u <;> exact .refl _
  | some session =>
    -- what happened concerns the present terminal
    have one (e : Event) (he : e.terminal = session.id) (hattempt : e.attempt? = none) :
        ∀ e' ∈ [e], some session.id = some e'.terminal ∧ e'.attempt? = none := by
      intro e' he'
      obtain rfl := List.mem_singleton.mp he'
      exact ⟨congrArg some he.symm, hattempt⟩
    cases u with
    | send text newline =>
      have hid := id_send session text newline
      exact ⟨congrArg some hid, rfl, _, rfl, one _ hid rfl⟩
    | editMode => exact ⟨rfl, rfl, _, rfl, one _ rfl rfl⟩
    | dispose => exact ⟨congrArg some (id_dispose session), rfl, _, rfl, one _ rfl rfl⟩
    | wait status =>
      exact ⟨congrArg some (id_wait session status), rfl, [], (List.append_nil _).symm, nofun⟩

theorem keeps_uses (s : Slot) (uses : List Use) : Keeps s (uses.foldl use s) := by
  induction uses generalizing s with
  | nil => exact .refl s
  | cons u uses ih => exact (keeps_use s u).trans (ih _)

/-! ## Replacing a terminal -/

/-- The present terminal is disposed of, and then the slot is empty. -/
theorem clear_eq (s : Slot) : s.clear =
    ⟨none, s.nextId, s.journal ++ s.currentId.toList.map .disposed⟩ := by
  obtain ⟨current, nextId, journal⟩ := s
  cases current with
  | none => simp [clear, currentId]
  | some session => rfl

theorem replace_eq_fails (s : Slot) (options : Options) (shell : String) (cause : OsError) :
    s.replace options (.fails shell cause) =
      (.error (.spawn shell cause), ⟨none, s.nextId + 1,
        s.journal ++ s.currentId.toList.map .disposed ++ [.created s.nextId options]⟩) := by
  rw [replace, clear_eq]
  rfl

theorem replace_eq_opens (s : Slot) (options : Options) (deaf : Bool) :
    s.replace options (.opens deaf) =
      (.ok s.nextId, ⟨some (.opened s.nextId options deaf), s.nextId + 1,
        s.journal ++ s.currentId.toList.map .disposed ++ [.created s.nextId options]⟩) := by
  rw [replace, clear_eq]
  rfl

theorem nextId_replace (s : Slot) (options : Options) (opening : Opening) :
    (s.replace options opening).2.nextId = s.nextId + 1 := by
  cases opening with
  | fails shell cause => rw [replace_eq_fails]
  | opens deaf => rw [replace_eq_opens]

theorem journal_replace (s : Slot) (options : Options) (opening : Opening) :
    (s.replace options opening).2.journal =
      s.journal ++ s.currentId.toList.map .disposed ++ [.created s.nextId options] := by
  cases opening with
  | fails shell cause => rw [replace_eq_fails]
  | opens deaf => rw [replace_eq_opens]

theorem attempts_replace (s : Slot) (options : Options) (opening : Opening) :
    (s.replace options opening).2.attempts = s.attempts ++ [s.nextId] := by
  have hnone : (s.currentId.toList.map Event.disposed).filterMap Event.attempt? = [] := by
    cases s.currentId <;> rfl
  rw [attempts, journal_replace, List.filterMap_append, List.filterMap_append, hnone,
    List.append_nil, attempts]
  rfl

/-- The terminal that an attempt opened is the one in the slot. -/
theorem currentId_replace (s : Slot) (options : Options) (opening : Opening) :
    (s.replace options opening).2.currentId = (s.replace options opening).1.toOption := by
  cases opening with
  | fails shell cause => rw [replace_eq_fails]; rfl
  | opens deaf => rw [replace_eq_opens]; rfl

end Slot

/-! ## Keeping count -/

/-- A slot, and the numbers of the terminals that were opened for it, of those that were taken out
of it, and of those that gave way to another one. -/
structure Custody where
  slot : Slot
  opened : List Nat
  taken : List Nat
  replaced : List Nat

namespace Custody

variable {c : Custody} {id : Nat}

/-- The beginning: no terminal was opened. -/
def initial : Custody := ⟨.empty, [], [], []⟩

/-- What an operation makes of a slot and of the count. -/
def perform (c : Custody) : Operation → Custody
  | .replace options opening =>
    { c with
      slot := (c.slot.replace options opening).2
      opened := c.opened ++ (c.slot.replace options opening).1.toOption.toList
      replaced := c.replaced ++ c.slot.currentId.toList }
  | .take =>
    { c with
      slot := c.slot.take.2
      taken := c.taken ++ (c.slot.take.1.map (·.id)).toList }
  | .withCurrent uses => { c with slot := uses.foldl Slot.use c.slot }

/-- What operations make of a slot and of the count, the first one first. -/
def run (c : Custody) (ops : List Operation) : Custody := ops.foldl perform c

/-- The terminals that left the slot. -/
def gone (c : Custody) : List Nat := c.taken ++ c.replaced

/-- Every terminal that was opened is in one place, and attempts are numbered in their order. -/
structure Sound (c : Custody) : Prop where
  places : c.opened.Perm (c.slot.currentId.toList ++ c.gone)
  attempts : c.slot.attempts = List.range' 1 (c.slot.nextId - 1)
  positive : 0 < c.slot.nextId
  opened : c.opened.Sublist c.slot.attempts

theorem Sound.initial : Sound .initial := ⟨.refl _, rfl, Nat.one_pos, .refl _⟩

namespace Sound

theorem sublist_range (H : Sound c) : c.opened.Sublist (List.range' 1 (c.slot.nextId - 1)) :=
  H.attempts ▸ H.opened

theorem lt_nextId (H : Sound c) (hid : id ∈ c.opened) : id < c.slot.nextId := by
  have hrange := H.sublist_range.subset hid
  rw [List.mem_range'_1] at hrange
  omega

theorem nodup (H : Sound c) : (c.slot.currentId.toList ++ c.gone).Nodup :=
  H.places.nodup_iff.mp (H.sublist_range.nodup List.nodup_range')

theorem ne_currentId (H : Sound c) (hid : id ∈ c.gone) : c.slot.currentId ≠ some id := by
  intro hcurrent
  have hnodup := H.nodup
  rw [hcurrent, Option.toList_some, List.singleton_append, List.nodup_cons] at hnodup
  exact hnodup.1 hid

theorem ne_nextId (H : Sound c) (hid : id ∈ c.gone) : id ≠ c.slot.nextId :=
  Nat.ne_of_lt (H.lt_nextId (H.places.mem_iff.mpr (List.mem_append_right _ hid)))

theorem perform_replace (H : Sound c) (options : Options) (opening : Opening) :
    Sound (c.perform (.replace options opening)) where
  places := by
    have hplaces := H.places
    simp only [perform, gone, Slot.currentId_replace] at hplaces ⊢
    generalize (c.slot.replace options opening).1.toOption.toList = new
    rw [List.perm_iff_count] at hplaces ⊢
    intro id
    have hcount := hplaces id
    simp only [List.count_append] at hcount ⊢
    omega
  attempts := by
    have hpositive := H.positive
    have hnext : c.slot.nextId - 1 + 1 = c.slot.nextId := Nat.sub_add_cancel hpositive
    rw [perform, Slot.attempts_replace, Slot.nextId_replace, H.attempts, Nat.add_sub_cancel,
      ← hnext, List.range'_concat, hnext, Nat.add_comm, Nat.one_mul, hnext]
  positive := by rw [perform, Slot.nextId_replace]; exact Nat.succ_pos _
  opened := by
    rw [perform, Slot.attempts_replace]
    refine H.opened.append ?_
    cases opening with
    | fails shell cause => rw [Slot.replace_eq_fails]; exact List.nil_sublist _
    | opens deaf => rw [Slot.replace_eq_opens]; exact .refl _

theorem perform (H : Sound c) (op : Operation) : Sound (c.perform op) := by
  cases op with
  | replace options opening => exact H.perform_replace options opening
  | take =>
    refine ⟨?_, H.attempts, H.positive, H.opened⟩
    refine H.places.trans ?_
    simp only [Custody.perform, gone, Slot.take, Slot.currentId, Option.map_none,
      Option.toList_none, List.nil_append]
    rw [← List.append_assoc]
    exact List.perm_append_comm.append_right _
  | withCurrent uses =>
    have hkeeps := Slot.keeps_uses c.slot uses
    refine ⟨?_, ?_, ?_, ?_⟩
    · rw [Custody.perform, hkeeps.currentId]
      exact H.places
    · rw [Custody.perform, hkeeps.attempts, hkeeps.nextId]
      exact H.attempts
    · rw [Custody.perform, hkeeps.nextId]
      exact H.positive
    · rw [Custody.perform, hkeeps.attempts]
      exact H.opened

theorem run (H : Sound c) (ops : List Operation) : Sound (c.run ops) := by
  induction ops generalizing c with
  | nil => exact H
  | cons op ops ih => exact ih (H.perform op)

/-! ## Terminals that left the slot -/

/-- What happens in an operation happens to the present terminal or to the next one. -/
theorem events_perform (c : Custody) (op : Operation) :
    ∃ events, (c.perform op).slot.journal = c.slot.journal ++ events ∧
      ∀ e ∈ events, c.slot.currentId = some e.terminal ∨ e.terminal = c.slot.nextId := by
  cases op with
  | replace options opening =>
    refine ⟨c.slot.currentId.toList.map .disposed ++ [.created c.slot.nextId options], ?_, ?_⟩
    · rw [Custody.perform, Slot.journal_replace, List.append_assoc]
    · intro e he
      rcases List.mem_append.mp he with he | he
      · obtain ⟨id, hid, rfl⟩ := List.mem_map.mp he
        exact .inl (Option.mem_toList.mp hid)
      · exact .inr (by rw [List.mem_singleton.mp he]; rfl)
  | take => exact ⟨[], (List.append_nil _).symm, nofun⟩
  | withCurrent uses =>
    obtain ⟨events, hjournal, hevents⟩ := (Slot.keeps_uses c.slot uses).journal
    exact ⟨events, hjournal, fun e he => .inl (hevents e he).1⟩

theorem gone_perform (hid : id ∈ c.gone) (op : Operation) : id ∈ (c.perform op).gone := by
  rw [gone, List.mem_append] at hid ⊢
  cases op with
  | replace => exact hid.imp_right fun hid => List.mem_append_left _ hid
  | take => exact hid.imp_left fun hid => List.mem_append_left _ hid
  | withCurrent => exact hid

/-- Nothing happens to a terminal that left the slot. -/
theorem events_run (H : Sound c) (later : List Operation) :
    ∃ events, (c.run later).slot.journal = c.slot.journal ++ events ∧
      ∀ e ∈ events, e.terminal ∉ c.gone := by
  induction later generalizing c with
  | nil => exact ⟨[], (List.append_nil _).symm, nofun⟩
  | cons op later ih =>
    obtain ⟨first, hfirst, hconcerns⟩ := events_perform c op
    obtain ⟨rest, hrest, hout⟩ := ih (H.perform op)
    refine ⟨first ++ rest, ?_, fun e he hid => ?_⟩
    · rw [← List.append_assoc, ← hfirst]
      exact hrest
    · -- terminals that left stay away, so that the later events do not concern them either
      rcases List.mem_append.mp he with he | he
      · rcases hconcerns e he with hcurrent | hnext
        · exact H.ne_currentId hid hcurrent
        · exact H.ne_nextId hid hnext
      · exact hout e he (gone_perform hid op)

end Sound

theorem nextId_run (c : Custody) (ops : List Operation) :
    (c.run ops).slot.nextId = c.slot.nextId + ops.countP (·.isReplace) := by
  induction ops generalizing c with
  | nil => rfl
  | cons op ops ih =>
    have hrun : c.run (op :: ops) = (c.perform op).run ops := rfl
    rw [hrun, ih, List.countP_cons]
    cases op with
    | replace options opening =>
      rw [perform, Slot.nextId_replace, Operation.isReplace, if_pos rfl]
      omega
    | take => rfl
    | withCurrent uses => rw [perform, (Slot.keeps_uses c.slot uses).nextId]; rfl

/-- Who has the terminals, whatever was done to a slot before. Every terminal that was opened is in
exactly one place: in the slot, which holds one at most, or among those that were taken, or among
those that were replaced. The attempts to open one have the numbers 1, 2, 3 and so on, also those
that fail, and terminals that were opened have increasing ones. Whatever is done later, nothing
happens to a terminal that was taken or replaced. A terminal that is replaced is disposed of once,
before the next one is tried, and when this does not open the slot is empty. -/
theorem ownership (ops : List Operation) :
    let c := run .initial ops
    (c.opened.Nodup ∧ c.opened.Perm (c.slot.currentId.toList ++ c.taken ++ c.replaced)) ∧
    (c.slot.attempts = List.range' 1 (ops.countP (·.isReplace)) ∧
      c.opened.Sublist c.slot.attempts ∧ c.opened.Pairwise (· < ·)) ∧
    (∀ later, ∃ events, (c.run later).slot.journal = c.slot.journal ++ events ∧
      ∀ e ∈ events, e.terminal ∉ c.taken ∧ e.terminal ∉ c.replaced) ∧
    ∀ options opening,
      (c.slot.replace options opening).2.journal = c.slot.journal ++
        c.slot.currentId.toList.map .disposed ++ [.created c.slot.nextId options] ∧
      (∀ shell cause, opening = .fails shell cause →
        (c.slot.replace options opening).1 = .error (.spawn shell cause) ∧
          (c.slot.replace options opening).2.current = none) ∧
      ∀ deaf, opening = .opens deaf →
        (c.slot.replace options opening).1 = .ok c.slot.nextId ∧
          (c.slot.replace options opening).2.currentId = some c.slot.nextId := by
  intro c
  have H : Sound c := Sound.initial.run ops
  refine ⟨⟨H.sublist_range.nodup List.nodup_range', ?_⟩, ⟨?_, H.opened, ?_⟩, fun later => ?_,
    fun options opening => ⟨Slot.journal_replace .., ?_, ?_⟩⟩
  · rw [List.append_assoc]
    exact H.places
  · have hnext : c.slot.nextId = 1 + ops.countP (·.isReplace) := nextId_run .initial ops
    rw [H.attempts, hnext, Nat.add_sub_cancel_left]
  · exact List.Pairwise.sublist H.sublist_range List.pairwise_lt_range'
  · obtain ⟨events, hjournal, hevents⟩ := H.events_run later
    refine ⟨events, hjournal, fun e he => ?_⟩
    have hgone := hevents e he
    rw [gone, List.mem_append] at hgone
    exact not_or.mp hgone
  · rintro shell cause rfl
    rw [Slot.replace_eq_fails]
    exact ⟨rfl, rfl⟩
  · rintro deaf rfl
    rw [Slot.replace_eq_opens]
    exact ⟨rfl, rfl⟩

end Custody

end AnalyzerClient.Terminal
