import AnalyzerClient.Proofs.Terminal.Custody
import AnalyzerClient.Runnable.Launch
import Mathlib.Data.List.Nodup
import Mathlib.Logic.Function.Basic

/-!
# Several runs at once

A run uses the slot in two sections: it puts its terminal into the slot, and later it types its
command line into the terminal that is there then (`Launcher.run_eq_sections`). When several runs
are under way, their sections come in any order that keeps the two of each run in order. A run is
`Disturbed` when another one opens its terminal between the two, and this decides where its command
line goes (`Launcher.Rush.sections`).
-/

namespace AnalyzerClient

open scoped List
open Terminal (Slot Opening)

variable {ι : Type}

/-- What somebody tried to type into a terminal: the text, and whether a new line follows. -/
def Terminal.Event.sent? : Event → Option (Nat × String × Bool)
  | .sent id text newline => some (id, text, newline)
  | _ => none

namespace Terminal.Slot

variable {s : Slot} {command : String} {edit : Bool}

/-- What was typed, and into which terminals. -/
def sent (s : Slot) : List (Nat × String × Bool) := s.journal.filterMap Event.sent?

/-- What was typed into one terminal. -/
def received (s : Slot) (id : Nat) : List (String × Bool) :=
  s.sent.filterMap fun entry => if entry.1 = id then some entry.2 else none

theorem sent_replace (s : Slot) (options : Options) (opening : Opening) :
    (s.replace options opening).2.sent = s.sent := by
  have hdisposed : (s.currentId.toList.map Event.disposed).filterMap Event.sent? = [] := by
    cases s.currentId <;> rfl
  rw [sent, journal_replace, List.filterMap_append, List.filterMap_append, hdisposed,
    List.append_nil]
  exact List.append_nil _

theorem typeCommand_of_none (h : s.current = none) : s.typeCommand command edit = (none, s) := by
  rw [typeCommand, send, h]

theorem typeCommand_of_some {session : Session} (h : s.current = some session) :
    (s.typeCommand command edit).1 = some (session.send command true).1 ∧
      ((s.typeCommand command edit).2 = s.use (.send command true) ∨
        (s.typeCommand command edit).2 = (s.use (.send command true)).use .editMode) := by
  have hsend : s.send command true =
      (some (session.send command true).1, s.use (.send command true)) := by
    rw [use, send, h]
  rw [typeCommand, hsend]
  cases (session.send command true).1 with
  | error e => exact ⟨rfl, .inl rfl⟩
  | ok u =>
    cases edit with
    | false => exact ⟨rfl, .inl rfl⟩
    | true => exact ⟨rfl, .inr rfl⟩

theorem keeps_typeCommand (s : Slot) (command : String) (edit : Bool) :
    Keeps s (s.typeCommand command edit).2 := by
  cases h : s.current with
  | none => rw [typeCommand_of_none h]; exact .refl s
  | some session =>
    rcases (typeCommand_of_some h).2 with heq | heq <;> rw [heq]
    · exact keeps_use s _
    · exact (keeps_use s _).trans (keeps_use _ _)

theorem typeCommand_eq_none_iff :
    (s.typeCommand command edit).1 = none ↔ s.currentId = none := by
  cases h : s.current with
  | none => rw [typeCommand_of_none h, currentId, h]; exact iff_of_true rfl rfl
  | some session => simp [(typeCommand_of_some h).1, currentId, h]

theorem sent_typeCommand (s : Slot) (command : String) (edit : Bool) :
    (s.typeCommand command edit).2.sent =
      s.sent ++ (s.currentId.map fun id => (id, command, true)).toList := by
  cases h : s.current with
  | none => rw [typeCommand_of_none h, currentId, h]; exact (List.append_nil _).symm
  | some session =>
    have husage : (s.use (.send command true)).sent = s.sent ++ [(session.id, command, true)] := by
      rw [use, send, h, ← id_send session command true]
      exact List.filterMap_append
    have hedit (s' : Slot) : (s'.use .editMode).sent = s'.sent := by
      cases h' : s'.current with
      | none => rw [use, editMode, h']
      | some session' =>
        rw [use, editMode, h']
        exact List.filterMap_append.trans (List.append_nil _)
    rw [currentId, h]
    rcases (typeCommand_of_some h).2 with heq | heq <;> rw [heq]
    · exact husage
    · rw [hedit]
      exact husage

end Terminal.Slot

namespace Launcher

/-- How far a run has come. -/
inductive Stage where
  | called
  /-- Its terminal was put into the slot. -/
  | opened (id : Nat)
  /-- Its terminal did not open. -/
  | refused (e : Terminal.Error)
  /-- It came back after typing into the terminal `target` that was in the slot then, if any. -/
  | ended (id : Nat) (target : Option Nat) (typed : Option (Except Terminal.Error Unit))

/-- The number of the terminal that a run opened. -/
def Stage.terminal? : Stage → Option Nat
  | .opened id | .ended id _ _ => some id
  | _ => none

/-- What a run gives when it comes back. -/
def Stage.result? : Stage → Option (Except LaunchError Nat)
  | .called | .opened _ => none
  | .refused e | .ended _ _ (some (.error e)) => some (.error (.terminal e))
  | .ended id _ _ => some (.ok id)

/-- The sections in which runs use the slot. -/
inductive Section (ι : Type) where
  | opens (run : ι) (opening : Opening)
  | types (run : ι)

/-- The run that types in a section. -/
def Section.types? : Section ι → Option ι
  | .types k => some k
  | _ => none

/-- The slot, and how far each run has come. -/
structure Rush (ι : Type) where
  slot : Slot
  stage : ι → Stage

namespace Rush

/-- The beginning: no run used the slot. -/
def initial : Rush ι := ⟨.empty, fun _ => .called⟩

variable (l : Launcher) (runs : ι → Runnable)

/-- What a run typed, and into which terminal. -/
def delivery? (s : Rush ι) (k : ι) : Option (Nat × String × Bool) :=
  match s.stage k with
  | .ended _ target _ => target.map fun id => (id, (runs k).commandLine, true)
  | _ => none

/-- Runs do not mix. The terminal of a run receives the command line of this run and nothing else,
and this once at most. A run that gives the number of a terminal typed its command line into it. -/
def Unmixed (s : Rush ι) : Prop :=
  ∀ k id, (s.stage k).terminal? = some id →
    s.slot.received id <+ [((runs k).commandLine, true)] ∧
    ∀ id', (s.stage k).result? = some (.ok id') →
      s.stage k = .ended id' (some id') (some (.ok ())) ∧
        s.slot.received id' = [((runs k).commandLine, true)]

/-- Another run opened its terminal, or tried to, after a run did. -/
def Overtaken (trace : List (Section ι)) (k : ι) : Prop :=
  ∃ opening k' opening', [.opens k opening, .opens k' opening'] <+ trace

/-- Another run opened its terminal, or tried to, between the two sections of a run. -/
def Disturbed (trace : List (Section ι)) (k : ι) : Prop :=
  ∃ opening k' opening', [.opens k opening, .opens k' opening', .types k] <+ trace

section

variable [DecidableEq ι]

/-- A run puts its terminal into the slot. -/
def opens (s : Rush ι) (k : ι) (opening : Opening) : Rush ι :=
  let (created, slot) := s.slot.replace (terminalOptions (runs k)) opening
  ⟨slot, Function.update s.stage k <|
    match created with
    | .ok id => .opened id
    | .error e => .refused e⟩

/-- A run types its command line, if it opened a terminal. -/
def types (s : Rush ι) (k : ι) : Rush ι :=
  match s.stage k with
  | .opened id =>
    let (typed, slot) := s.slot.typeCommand (runs k).commandLine l.startInsert
    ⟨slot, Function.update s.stage k (.ended id s.slot.currentId typed)⟩
  | _ => s

/-- One section of one of the runs. -/
inductive Step : Rush ι → Section ι → Rush ι → Prop
  | opens {s : Rush ι} {k : ι} (opening : Opening) (h : s.stage k = .called) :
    Step s (.opens k opening) (s.opens runs k opening)
  | types {s : Rush ι} {k : ι} {id : Nat} (h : s.stage k = .opened id) :
    Step s (.types k) (s.types l runs k)

/-- Sections of runs, one after the other. -/
inductive Trace : List (Section ι) → Rush ι → Prop
  | nil : Trace [] initial
  | concat {s s' : Rush ι} {trace : List (Section ι)} {next : Section ι}
    (first : Trace trace s) (last : Step l runs s next s') : Trace (trace ++ [next]) s'

end

/-! ## The order of sections -/

variable {l : Launcher} {runs : ι → Runnable} {trace : List (Section ι)} {next : Section ι}

theorem sublist_concat_iff {α : Type} (xs : List α) {ys : List α} {x y : α} :
    xs ++ [x] <+ ys ++ [y] ↔ xs ++ [x] <+ ys ∨ x = y ∧ xs <+ ys := by
  rw [← List.reverse_sublist, List.reverse_concat, List.reverse_concat, List.cons_sublist_cons',
    ← List.reverse_concat, List.reverse_sublist, List.reverse_sublist]

theorem overtaken_concat {k : ι} : Overtaken (trace ++ [next]) k ↔
    Overtaken trace k ∨
      (∃ k' opening', next = .opens k' opening') ∧ ∃ opening, .opens k opening ∈ trace := by
  constructor
  · rintro ⟨opening, k', opening', h⟩
    rcases (sublist_concat_iff [_]).mp h with hbefore | ⟨rfl, hbefore⟩
    · exact .inl ⟨opening, k', opening', hbefore⟩
    · exact .inr ⟨⟨k', opening', rfl⟩, opening, List.singleton_sublist.mp hbefore⟩
  · rintro (⟨opening, k', opening', h⟩ | ⟨⟨k', opening', rfl⟩, opening, h⟩)
    · exact ⟨opening, k', opening', h.trans (List.sublist_append_left ..)⟩
    · exact ⟨opening, k', opening', (List.singleton_sublist.mpr h).append (.refl _)⟩

theorem disturbed_concat {k : ι} : Disturbed (trace ++ [next]) k ↔
    Disturbed trace k ∨ next = .types k ∧ Overtaken trace k := by
  constructor
  · rintro ⟨opening, k', opening', h⟩
    rcases (sublist_concat_iff [_, _]).mp h with hbefore | ⟨rfl, hbefore⟩
    · exact .inl ⟨opening, k', opening', hbefore⟩
    · exact .inr ⟨rfl, opening, k', opening', hbefore⟩
  · rintro (⟨opening, k', opening', h⟩ | ⟨rfl, opening, k', opening', h⟩)
    · exact ⟨opening, k', opening', h.trans (List.sublist_append_left ..)⟩
    · exact ⟨opening, k', opening', h.append (.refl [_])⟩

/-- The runs that typed, in this order. -/
def typings (trace : List (Section ι)) : List ι := trace.filterMap Section.types?

theorem mem_typings {k : ι} : k ∈ typings trace ↔ .types k ∈ trace := by
  rw [typings, List.mem_filterMap]
  constructor
  · rintro ⟨next, hnext, hk⟩
    cases next with
    | opens k' opening => cases hk
    | types k' =>
      cases hk
      exact hnext
  · intro h
    exact ⟨_, h, rfl⟩

theorem typings_opens (k : ι) (opening : Opening) :
    typings (trace ++ [.opens k opening]) = typings trace := by
  rw [typings, List.filterMap_append]
  exact List.append_nil _

theorem typings_types (k : ι) : typings (trace ++ [.types k]) = typings trace ++ [k] := by
  rw [typings, List.filterMap_append]
  rfl

/-! ## Where command lines go -/

/-- How far runs have come fits the sections so far, and so do the terminals and what was typed into
them. -/
structure Sound (runs : ι → Runnable) (trace : List (Section ι)) (s : Rush ι) : Prop where
  called : ∀ k opening, .opens k opening ∈ trace → s.stage k ≠ .called
  opened : ∀ k id, (s.stage k).terminal? = some id →
    id < s.slot.nextId ∧ .created id (terminalOptions (runs k)) ∈ s.slot.journal ∧
      ∃ opening, .opens k opening ∈ trace
  apart : ∀ k k' id, (s.stage k).terminal? = some id → (s.stage k').terminal? = some id → k' = k
  /-- Between its sections, a run has its terminal in the slot as long as nobody overtook it. -/
  holds : ∀ k id, s.stage k = .opened id → (s.slot.currentId = some id ↔ ¬ Overtaken trace k)
  typed : ∀ k, .types k ∈ trace ↔ ∃ id target typed, s.stage k = .ended id target typed
  ended : ∀ k id target typed, s.stage k = .ended id target typed →
    (target = some id ↔ ¬ Disturbed trace k) ∧ (typed = none ↔ target = none)
  sent : s.slot.sent = (typings trace).filterMap (s.delivery? runs)
  once : (typings trace).Nodup

theorem Sound.initial (runs : ι → Runnable) : Sound runs [] initial where
  called := nofun
  opened := nofun
  apart := nofun
  holds := nofun
  typed _ := ⟨nofun, nofun⟩
  ended := nofun
  sent := rfl
  once := List.nodup_nil

variable {s : Rush ι} {k : ι}

theorem filterMap_of_nodup {α β : Type} {f : α → Option β} {xs : List α} {a : α} (h : xs.Nodup)
    (hother : ∀ b ∈ xs, b ≠ a → f b = none) (ha : a ∈ xs) : xs.filterMap f = (f a).toList := by
  obtain ⟨before, after, rfl⟩ := List.append_of_mem ha
  rw [List.nodup_middle, List.nodup_cons] at h
  have hnone : ∀ b ∈ before ++ after, f b = none := by
    intro b hb
    refine hother b ?_ (by rintro rfl; exact h.1 hb)
    rw [List.mem_append, List.mem_cons]
    exact (List.mem_append.mp hb).imp_right .inr
  have hbefore := List.filterMap_eq_nil_iff.mpr fun b hb => hnone b (List.mem_append_left _ hb)
  have hafter := List.filterMap_eq_nil_iff.mpr fun b hb => hnone b (List.mem_append_right _ hb)
  rw [List.filterMap_append, hbefore, List.nil_append, List.filterMap_cons, hafter]
  cases f a <;> rfl

namespace Sound

/-- Who typed without being disturbed typed into its own terminal. -/
theorem delivery_of_typed (H : Sound runs trace s) (hnot : ¬ Disturbed trace k)
    (hk : k ∈ typings trace) : ∃ id, (s.stage k).terminal? = some id ∧
      s.delivery? runs k = some (id, (runs k).commandLine, true) := by
  obtain ⟨id, target, typed, hstage⟩ := (H.typed k).mp (mem_typings.mp hk)
  obtain rfl := (H.ended k id target typed hstage).1.mpr hnot
  refine ⟨id, by rw [hstage]; rfl, ?_⟩
  rw [delivery?, hstage]
  rfl

theorem received (H : Sound runs trace s) (hnobody : ∀ k, ¬ Disturbed trace k) {id : Nat}
    (hid : (s.stage k).terminal? = some id) :
    (k ∈ typings trace → s.slot.received id = [((runs k).commandLine, true)]) ∧
      (k ∉ typings trace → s.slot.received id = []) := by
  -- nobody else typed into the terminal of a run
  have hother : ∀ k' ∈ typings trace, k' ≠ k →
      ((s.delivery? runs k').bind fun entry => if entry.1 = id then some entry.2 else none) =
        none := by
    intro k' hk' hne
    obtain ⟨id', hid', hdelivery⟩ := H.delivery_of_typed (hnobody k') hk'
    have hdiffer : id' ≠ id := by
      rintro rfl
      exact hne (H.apart k k' id' hid hid')
    rw [hdelivery]
    exact if_neg hdiffer
  rw [Slot.received, H.sent, List.filterMap_filterMap]
  refine ⟨fun hk => ?_, fun hk => ?_⟩
  · obtain ⟨id', hid', hdelivery⟩ := H.delivery_of_typed (hnobody k) hk
    obtain rfl := Option.some.inj (hid.symm.trans hid')
    rw [filterMap_of_nodup H.once hother hk, hdelivery, Option.bind_some, if_pos rfl]
    rfl
  · apply List.filterMap_eq_nil_iff.mpr
    intro k' hk'
    apply hother k' hk'
    rintro rfl
    exact hk hk'

theorem unmixed (H : Sound runs trace s) (hnobody : ∀ k, ¬ Disturbed trace k) :
    Unmixed runs s := by
  intro k id hid
  obtain ⟨htyped, huntyped⟩ := H.received hnobody hid
  constructor
  · by_cases hk : k ∈ typings trace
    · rw [htyped hk]
    · rw [huntyped hk]
      exact List.nil_sublist _
  · intro id' hresult
    cases hstage : s.stage k with
    | called => rw [hstage] at hid; cases hid
    | refused e => rw [hstage] at hid; cases hid
    | opened id => rw [hstage] at hresult; cases hresult
    | ended id₁ target typed =>
      rw [hstage] at hid hresult
      cases hid
      obtain ⟨htarget, hnone⟩ := H.ended k id target typed hstage
      obtain rfl := htarget.mpr (hnobody k)
      have hk : k ∈ typings trace := mem_typings.mpr ((H.typed k).mpr ⟨_, _, _, hstage⟩)
      cases typed with
      | none => cases hnone.mp rfl
      | some typed =>
        cases typed with
        | error e => cases hresult
        | ok u =>
          cases hresult
          exact ⟨rfl, htyped hk⟩

end Sound

/-! ## What sections preserve -/

section

variable [DecidableEq ι]

theorem stage_opens_of_ne {k' : ι} (h : k' ≠ k) (opening : Opening) :
    (s.opens runs k opening).stage k' = s.stage k' :=
  Function.update_of_ne h ..

theorem opens_of_fails (shell : String) (cause : OsError) : s.opens runs k (.fails shell cause) =
    ⟨(s.slot.replace (terminalOptions (runs k)) (.fails shell cause)).2,
      Function.update s.stage k (.refused (.spawn shell cause))⟩ := by
  rw [opens, Slot.replace_eq_fails]

theorem opens_of_opens (deaf : Bool) : s.opens runs k (.opens deaf) =
    ⟨(s.slot.replace (terminalOptions (runs k)) (.opens deaf)).2,
      Function.update s.stage k (.opened s.slot.nextId)⟩ := by
  rw [opens, Slot.replace_eq_opens]

/-- The terminal of a run is in the slot right after it was opened. When it did not open, none is.
-/
theorem opens_cases (s : Rush ι) (k : ι) (opening : Opening) :
    (∃ e, (s.opens runs k opening).stage k = .refused e ∧
      (s.opens runs k opening).slot.currentId = none) ∨
    (s.opens runs k opening).stage k = .opened s.slot.nextId ∧
      (s.opens runs k opening).slot.currentId = some s.slot.nextId := by
  have hcurrent : (s.opens runs k opening).slot.currentId = _ := Slot.currentId_replace ..
  rw [hcurrent]
  cases opening with
  | fails shell cause =>
    rw [opens_of_fails, Slot.replace_eq_fails]
    exact .inl ⟨_, Function.update_self .., rfl⟩
  | opens deaf =>
    rw [opens_of_opens, Slot.replace_eq_opens]
    exact .inr ⟨Function.update_self .., rfl⟩

theorem terminal_opens (opening : Opening) :
    ((s.opens runs k opening).stage k).terminal? = (s.opens runs k opening).slot.currentId := by
  rcases opens_cases s k opening with ⟨e, hstage, hcurrent⟩ | ⟨hstage, hcurrent⟩ <;>
    rw [hstage, hcurrent] <;> rfl

theorem Sound.currentId_opens_ne {k' : ι} {id : Nat} (H : Sound runs trace s)
    (hid : (s.stage k').terminal? = some id) (opening : Opening) :
    (s.opens runs k opening).slot.currentId ≠ some id := by
  -- the number of a new terminal is greater than those of the others
  have hlt := (H.opened k' id hid).1
  rcases opens_cases s k opening with ⟨e, -, hcurrent⟩ | ⟨-, hcurrent⟩ <;> rw [hcurrent]
  · nofun
  · intro heq
    cases heq
    exact Nat.lt_irrefl _ hlt

theorem opens_ne_called (opening : Opening) : (s.opens runs k opening).stage k ≠ .called := by
  rcases opens_cases s k opening with ⟨e, hstage, -⟩ | ⟨hstage, -⟩ <;> rw [hstage] <;> nofun

theorem opens_ne_ended {id : Nat} {target : Option Nat}
    {typed : Option (Except Terminal.Error Unit)} (opening : Opening) :
    (s.opens runs k opening).stage k ≠ .ended id target typed := by
  rcases opens_cases s k opening with ⟨e, hstage, -⟩ | ⟨hstage, -⟩ <;> rw [hstage] <;> nofun

/-- Who opens a terminal did not type yet, and nothing that others typed changes. -/
theorem delivery?_opens (h : s.stage k = .called) (opening : Opening) :
    (s.opens runs k opening).delivery? runs = s.delivery? runs := by
  funext k'
  rcases eq_or_ne k' k with rfl | hne
  · rw [delivery?, delivery?, h]
    rcases opens_cases s k' opening with ⟨e, hstage, -⟩ | ⟨hstage, -⟩ <;> rw [hstage]
  · rw [delivery?, delivery?, stage_opens_of_ne hne]

theorem Sound.opens (H : Sound runs trace s) (h : s.stage k = .called) (opening : Opening) :
    Sound runs (trace ++ [.opens k opening]) (s.opens runs k opening) where
  called := by
    intro k' opening' hmem
    rcases eq_or_ne k' k with rfl | hne
    · exact opens_ne_called opening
    · rw [stage_opens_of_ne hne]
      rcases List.mem_append.mp hmem with hmem | hmem
      · exact H.called k' opening' hmem
      · cases List.mem_singleton.mp hmem
        exact absurd rfl hne
  opened := by
    intro k' id hid
    have hnext : (s.opens runs k opening).slot.nextId = s.slot.nextId + 1 :=
      Slot.nextId_replace ..
    have hjournal : (s.opens runs k opening).slot.journal = _ := Slot.journal_replace ..
    rw [hnext, hjournal]
    rcases eq_or_ne k' k with rfl | hne
    · rcases opens_cases s k' opening with ⟨e, hstage, -⟩ | ⟨hstage, -⟩ <;> rw [hstage] at hid
      · cases hid
      · cases hid
        exact ⟨Nat.lt_succ_self _, List.mem_append_right _ (List.mem_singleton_self _),
          opening, List.mem_append_right _ (List.mem_singleton_self _)⟩
    · rw [stage_opens_of_ne hne] at hid
      obtain ⟨hlt, hcreated, opening', hmem⟩ := H.opened k' id hid
      exact ⟨Nat.lt_succ_of_lt hlt, List.mem_append_left _ (List.mem_append_left _ hcreated),
        opening', List.mem_append_left _ hmem⟩
  apart := by
    -- only the run that opened it has the terminal that is in the slot now
    have hnew (k' : ι) (id : Nat) (hk' : ((s.opens runs k opening).stage k').terminal? = some id)
        (hk : ((s.opens runs k opening).stage k).terminal? = some id) : k' = k := by
      by_contra hne
      rw [stage_opens_of_ne hne] at hk'
      rw [terminal_opens] at hk
      exact H.currentId_opens_ne hk' opening hk
    intro k₁ k₂ id h₁ h₂
    rcases eq_or_ne k₁ k with rfl | hne₁
    · exact hnew k₂ id h₂ h₁
    · rcases eq_or_ne k₂ k with rfl | hne₂
      · exact (hnew k₁ id h₁ h₂).symm
      · rw [stage_opens_of_ne hne₁] at h₁
        rw [stage_opens_of_ne hne₂] at h₂
        exact H.apart k₁ k₂ id h₁ h₂
  holds := by
    intro k' id hstage
    have hid : ((s.opens runs k opening).stage k').terminal? = some id := by rw [hstage]; rfl
    rw [overtaken_concat]
    rcases eq_or_ne k' k with rfl | hne
    · rw [terminal_opens] at hid
      apply iff_of_true hid
      rintro (⟨opening₁, k₁, opening₂, hsub⟩ | ⟨-, opening₁, hmem⟩)
      · exact H.called k' opening₁ (hsub.subset List.mem_cons_self) h
      · exact H.called k' opening₁ hmem h
    · rw [stage_opens_of_ne hne] at hid
      obtain ⟨-, -, hmem⟩ := H.opened k' id hid
      exact iff_of_false (H.currentId_opens_ne hid opening)
        (not_not_intro (.inr ⟨⟨k, opening, rfl⟩, hmem⟩))
  typed := by
    intro k'
    rw [List.mem_append, List.mem_singleton, or_iff_left nofun, H.typed k']
    rcases eq_or_ne k' k with rfl | hne
    · -- the run was not even opened before, and it did not type in this section
      rw [h]
      exact ⟨nofun, fun ⟨_, _, _, hended⟩ => absurd hended (opens_ne_ended opening)⟩
    · rw [stage_opens_of_ne hne]
  ended := by
    intro k' id target typed hstage
    have hne : k' ≠ k := by
      rintro rfl
      exact opens_ne_ended opening hstage
    rw [stage_opens_of_ne hne] at hstage
    rw [disturbed_concat, or_iff_left (fun h => nomatch h.1)]
    exact H.ended k' id target typed hstage
  sent := by
    rw [typings_opens, delivery?_opens h, ← H.sent]
    exact Slot.sent_replace ..
  once := by
    rw [typings_opens]
    exact H.once

theorem stage_types_of_ne {k' : ι} (h : k' ≠ k) : (s.types l runs k).stage k' = s.stage k' := by
  rw [types]
  split
  · exact Function.update_of_ne h ..
  · rfl

theorem types_of_opened {id : Nat} (h : s.stage k = .opened id) : s.types l runs k =
    ⟨(s.slot.typeCommand (runs k).commandLine l.startInsert).2, Function.update s.stage k
      (.ended id s.slot.currentId (s.slot.typeCommand (runs k).commandLine l.startInsert).1)⟩ := by
  rw [types, h]

theorem stage_types_self {id : Nat} (h : s.stage k = .opened id) : (s.types l runs k).stage k =
    .ended id s.slot.currentId (s.slot.typeCommand (runs k).commandLine l.startInsert).1 := by
  rw [types_of_opened h]
  exact Function.update_self ..

theorem terminal_types (k' : ι) :
    ((s.types l runs k).stage k').terminal? = (s.stage k').terminal? := by
  rcases eq_or_ne k' k with rfl | hne
  · cases h : s.stage k' with
    | opened id => rw [stage_types_self h]; rfl
    | _ => rw [types, h]; exact congrArg _ h
  · rw [stage_types_of_ne hne]

theorem keeps_types : Slot.Keeps s.slot (s.types l runs k).slot := by
  rw [types]
  split
  · exact Slot.keeps_typeCommand ..
  · exact .refl _

theorem delivery?_types_of_ne {k' : ι} (h : k' ≠ k) :
    (s.types l runs k).delivery? runs k' = s.delivery? runs k' := by
  rw [delivery?, delivery?, stage_types_of_ne h]

theorem delivery?_types_self {id : Nat} (h : s.stage k = .opened id) :
    (s.types l runs k).delivery? runs k =
      s.slot.currentId.map fun id => (id, (runs k).commandLine, true) := by
  rw [delivery?, stage_types_self h]

/-- The command line of the run that types comes last. -/
theorem filterMap_delivery?_types {id : Nat} {ks : List ι} (h : s.stage k = .opened id)
    (hk : k ∉ ks) : (ks ++ [k]).filterMap ((s.types l runs k).delivery? runs) =
      ks.filterMap (s.delivery? runs) ++
        (s.slot.currentId.map fun id => (id, (runs k).commandLine, true)).toList := by
  have hbefore : ∀ k' ∈ ks, (s.types l runs k).delivery? runs k' = s.delivery? runs k' :=
    fun k' hk' => delivery?_types_of_ne fun he => hk (he ▸ hk')
  rw [List.filterMap_append, List.filterMap_congr hbefore, List.filterMap_cons,
    delivery?_types_self h]
  cases s.slot.currentId <;> rfl

theorem Sound.types {id : Nat} (H : Sound runs trace s) (h : s.stage k = .opened id) :
    Sound runs (trace ++ [.types k]) (s.types l runs k) := by
  -- a run that opened its terminal did not type yet
  have hfresh : Section.types k ∉ trace := by
    intro hmem
    obtain ⟨id', target, typed, hstage⟩ := (H.typed k).mp hmem
    rw [h] at hstage
    cases hstage
  refine ⟨?called, ?opened, ?apart, ?holds, ?typed, ?ended, ?sent, ?once⟩
  case called =>
    intro k' opening hmem
    rcases eq_or_ne k' k with rfl | hne
    · rw [stage_types_self h]
      nofun
    · rw [stage_types_of_ne hne]
      rcases List.mem_append.mp hmem with hmem | hmem
      · exact H.called k' opening hmem
      · cases List.mem_singleton.mp hmem
  case opened =>
    intro k' id' hid
    rw [terminal_types] at hid
    obtain ⟨hlt, hcreated, opening, hmem⟩ := H.opened k' id' hid
    obtain ⟨events, hjournal, -⟩ := (keeps_types (s := s) (l := l)).journal
    rw [keeps_types.nextId, hjournal]
    exact ⟨hlt, List.mem_append_left _ hcreated, opening, List.mem_append_left _ hmem⟩
  case apart =>
    intro k₁ k₂ id' h₁ h₂
    rw [terminal_types] at h₁ h₂
    exact H.apart k₁ k₂ id' h₁ h₂
  case holds =>
    intro k' id' hstage
    have hne : k' ≠ k := by
      rintro rfl
      rw [stage_types_self h] at hstage
      cases hstage
    rw [stage_types_of_ne hne] at hstage
    rw [keeps_types.currentId, overtaken_concat, or_iff_left (fun h => nomatch h.1)]
    exact H.holds k' id' hstage
  case typed =>
    intro k'
    rw [List.mem_append, List.mem_singleton]
    rcases eq_or_ne k' k with rfl | hne
    · exact iff_of_true (.inr rfl) ⟨_, _, _, stage_types_self h⟩
    · have hother : Section.types k' ≠ .types k := fun heq => hne (by cases heq; rfl)
      rw [stage_types_of_ne hne, or_iff_left hother, H.typed k']
  case ended =>
    intro k' id' target typed hstage
    rcases eq_or_ne k' k with rfl | hne
    · rw [stage_types_self h] at hstage
      cases hstage
      have hnot : ¬ Disturbed trace k' := by
        rintro ⟨opening, k₁, opening₁, hsub⟩
        exact hfresh (hsub.subset (by simp))
      rw [disturbed_concat, or_iff_right hnot, and_iff_right rfl]
      exact ⟨H.holds k' id h, Slot.typeCommand_eq_none_iff⟩
    · rw [stage_types_of_ne hne] at hstage
      have hother : ¬ (Section.types k = .types k' ∧ Overtaken trace k') := by
        rintro ⟨heq, -⟩
        cases heq
        exact hne rfl
      rw [disturbed_concat, or_iff_left hother]
      exact H.ended k' id' target typed hstage
  case sent =>
    rw [typings_types, filterMap_delivery?_types h fun hk => hfresh (mem_typings.mp hk), ← H.sent,
      types_of_opened h]
    exact Slot.sent_typeCommand ..
  case once =>
    rw [typings_types, List.nodup_append_comm, List.singleton_append, List.nodup_cons]
    exact ⟨fun hk => hfresh (mem_typings.mp hk), H.once⟩

theorem Trace.sound (h : Trace l runs trace s) : Sound runs trace s := by
  induction h with
  | nil => exact .initial runs
  | concat first last ih =>
    cases last with
    | opens opening hcalled => exact ih.opens hcalled opening
    | types hopened => exact ih.types hopened

/-- Several runs at once, whatever the order of their sections. A terminal is opened for one run, in
the directory and with the environment of its runnable. What was typed into terminals are the
command lines of the runs that typed, each of them once and in this order. A run typed into its own
terminal if and only if no other run opened a terminal between its two sections, and it typed
nothing if and only if there was no terminal, so that runs do not mix as long as none is disturbed.
-/
theorem sections (h : Trace l runs trace s) :
    (∀ k id, (s.stage k).terminal? = some id →
      .created id (terminalOptions (runs k)) ∈ s.slot.journal ∧
      ∀ k', (s.stage k').terminal? = some id → k' = k) ∧
    ((typings trace).Nodup ∧ s.slot.sent = (typings trace).filterMap (s.delivery? runs)) ∧
    (∀ k id target typed, s.stage k = .ended id target typed →
      (target = some id ↔ ¬ Disturbed trace k) ∧ (typed = none ↔ target = none)) ∧
    ((∀ k, ¬ Disturbed trace k) → Unmixed runs s) := by
  have H := h.sound
  refine ⟨fun k id hid => ⟨(H.opened k id hid).2.1, fun k' hid' => H.apart k k' id hid hid'⟩,
    ⟨H.once, H.sent⟩, H.ended, H.unmixed⟩

end

/-- Two tasks of a build tool, in two directories. -/
def tasks (test : Bool) : Runnable :=
  if test then ⟨"test", none, .shell ⟨"make", ["test"], none, "/b"⟩⟩
  else ⟨"build", none, .shell ⟨"make", ["build"], none, "/a"⟩⟩

/-- Both runs open their terminals before any of them types. -/
theorem sections_crossed :
    let l : Launcher := ⟨.standard, false, .initial⟩
    let trace : List (Section Bool) :=
      [.opens false (.opens false), .opens true (.opens false), .types false, .types true]
    ∃ s, Trace l tasks trace s ∧ Disturbed trace false ∧
      (s.stage false).result?.map (·.toOption) = some (some 1) ∧ s.slot.received 1 = [] ∧
      s.slot.received 2 = [("make build", true), ("make test", true)] := by
  intro l trace
  have h : Trace l tasks trace _ :=
    .concat (.concat (.concat (.concat .nil (.opens _ rfl)) (.opens _ rfl)) (.types rfl))
      (.types rfl)
  refine ⟨_, h, ?_, rfl, rfl, ?_⟩
  · have haim := ((sections h).2.2.1 false 1 (some 2) (some (.ok ())) rfl).1
    exact not_not.mp (mt haim.mpr (by decide))
  · decide

end Rush

/-- A run by itself is its two sections, one right after the other. -/
theorem run_eq_sections {m : Type → Type} [Monad m] [LawfulMonad m] [DecidableEq ι] (l : Launcher)
    (w : Workbench m) (runs : ι → Runnable) (s : Rush ι) (k : ι) :
    (fun outcome => (some outcome.1, outcome.2)) <$> (l.run w (runs k)).run s.slot =
      (fun opening =>
        let after := (s.opens runs k opening).types l runs k
        ((after.stage k).result?, after.slot)) <$> w.openTerminal (terminalOptions (runs k)) := by
  simp only [run, StateT.run_bind, StateT.run_modify, StateT.run_monadLift, StateT.run_get,
    StateT.run_set, bind_assoc, pure_bind, monadLift_self, map_eq_pure_bind]
  refine congrArg _ (funext fun opening => ?_)
  have hcreate : s.slot.clear.create (terminalOptions (runs k)) opening =
      s.slot.replace (terminalOptions (runs k)) opening := rfl
  rw [hcreate]
  cases opening with
  | fails shell cause =>
    have hstage :
        (s.opens runs k (.fails shell cause)).stage k = .refused (.spawn shell cause) := by
      rw [Rush.opens_of_fails]
      exact Function.update_self ..
    rw [Rush.types, hstage, hstage, Rush.opens_of_fails, Slot.replace_eq_fails]
    exact pure_bind ..
  | opens deaf =>
    have hstage : (s.opens runs k (.opens deaf)).stage k = .opened s.slot.nextId := by
      rw [Rush.opens_of_opens]
      exact Function.update_self ..
    rw [Rush.stage_types_self hstage, Rush.types_of_opened hstage, Rush.opens_of_opens]
    simp only [Slot.replace_eq_opens, StateT.run_bind, StateT.run_set, pure_bind]
    cases (Slot.typeCommand _ (runs k).commandLine l.startInsert).1 with
    | none => exact pure_bind ..
    | some typed =>
      cases typed with
      | error e => exact pure_bind ..
      | ok u => exact pure_bind ..

end Launcher

end AnalyzerClient
