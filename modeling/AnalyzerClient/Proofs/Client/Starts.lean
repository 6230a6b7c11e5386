import AnalyzerClient.Proofs.Client.Ledger

/-!
# Starts and their tables

Every start makes one table, and the reader of its server resolves that table (`Started`). So after
a single start all readers resolve the table in which requests are registered
(`Started.tableOf_eq`).
-/

namespace AnalyzerClient.Traffic

open Client (Same)

variable {s s' : Traffic} {a : Action} {actions : List Action} {n server : Nat}

/-- Whether an action begins a start. -/
def Action.isStart : Action → Bool
  | .owner .beginStart => true
  | _ => false

/-- The tables and readers after a number of starts. -/
structure Started (s : Traffic) (n : Nat) : Prop where
  table : s.client.table = n
  tables : s.client.tables.length = n + 1
  readers : ∀ t ∈ s.client.readers, 0 < t ∧ t ≤ n
  owner : s.owner = .tabled → 0 < n
  streams : s.streams.length = s.client.readers.length

theorem isStart_eq_true (h : a.isStart = true) : a = .owner .beginStart := by
  unfold Action.isStart at h
  split at h
  · rfl
  · cases h

/-- What a step other than the beginning of a start leaves as it is. -/
theorem tables_step (h : Step s a s') (ha : a ≠ .owner .beginStart) :
    s'.client.table = s.client.table ∧ s'.client.tables.length = s.client.tables.length := by
  refine ⟨Ledger.table_step h ha, ?_⟩
  cases h.effect with
  | tabled => exact absurd rfl ha
  | registered hcalled hstage hregister hsame =>
    rw [hsame.tables, (Client.register_eq_ok hregister).2, Client.tables_updateTable,
      List.length_modify]
  | quiet hsame | begun hsame | moved hsame => rw [hsame.tables]
  | attached hsame => rw [hsame.tables]; rfl
  | withdrawn _ _ hsame | resolved _ _ hsame | closed hsame =>
    rw [hsame.tables]
    exact List.length_modify ..

theorem readers_step (h : Step s a s') (ha : a ≠ .owner .attach) :
    s'.client.readers = s.client.readers := by
  cases h.effect with
  | attached => exact absurd rfl ha
  | registered hcalled hstage hregister hsame =>
    rw [hsame.readers, (Client.register_eq_ok hregister).2]; rfl
  | quiet hsame | begun hsame | moved hsame | withdrawn _ _ hsame | tabled _ hsame
  | resolved _ _ hsame | closed hsame => exact hsame.readers

theorem streams_step (h : Step s a s') (ha : a ≠ .owner .attach) :
    s'.streams.length = s.streams.length := by
  cases h with
  | arrive | hangUp | reader => exact List.length_set
  | begin | turnAway | notify | notifyFails | call => rfl
  | owner hstep =>
    cases hstep with
    | attach => exact absurd rfl ha
    | detach => exact List.length_map ..
    | _ => rfl

theorem owner_step (h : Step s a s') (ha : a ≠ .owner .beginStart) (howner : s'.owner = .tabled) :
    s.owner = .tabled := by
  cases h with
  | owner hstep =>
    cases hstep with
    | beginStart => exact absurd rfl ha
    | _ => cases howner
  | _ => exact howner

theorem Started.initial (config : Server.Config) : Started (.initial config) 0 :=
  ⟨rfl, rfl, fun _ ht => (by cases ht), fun h => (by cases h), rfl⟩

theorem Started.step (H : Started s n) (h : Step s a s') :
    Started s' (n + if a.isStart then 1 else 0) := by
  by_cases hstart : a.isStart = true
  · rw [if_pos hstart]
    obtain rfl := isStart_eq_true hstart
    have hreaders := readers_step h nofun
    refine ⟨?_, ?_, fun t ht => ?_, fun _ => Nat.succ_pos _, ?_⟩
    · cases h.effect with
      | tabled hfree hsame => rw [hsame.table, ← H.tables]; rfl
      | quiet _ _ _ hbegins | begun _ _ _ hbegins => exact absurd rfl hbegins
    · cases h.effect with
      | tabled hfree hsame =>
        rw [hsame.tables, Client.beginStart, List.length_append, H.tables]; rfl
      | quiet _ _ _ hbegins | begun _ _ _ hbegins => exact absurd rfl hbegins
    · rw [hreaders] at ht
      exact ⟨(H.readers t ht).1, Nat.le_succ_of_le (H.readers t ht).2⟩
    · rw [streams_step h nofun, hreaders, H.streams]
  · have hbegins : a ≠ .owner .beginStart := fun he => hstart (by rw [he]; rfl)
    rw [if_neg hstart]
    refine ⟨(tables_step h hbegins).1.trans H.table, (tables_step h hbegins).2.trans H.tables, ?_,
      fun ho => H.owner (owner_step h hbegins ho), ?_⟩
    · intro t ht
      by_cases hattach : a = .owner .attach
      · subst hattach
        cases h with
        | owner hstep =>
          cases hstep with
          | attach howner =>
            rcases List.mem_append.mp ht with ht | ht
            · exact H.readers t ht
            · rw [List.mem_singleton.mp ht, H.table]
              exact ⟨H.owner howner, Nat.le_refl n⟩
      · rw [readers_step h hattach] at ht
        exact H.readers t ht
    · by_cases hattach : a = .owner .attach
      · subst hattach
        cases h with
        | owner hstep =>
          cases hstep with
          | attach howner =>
            simp only [Client.attach, List.length_append, H.streams]; rfl
      · rw [streams_step h hattach, readers_step h hattach, H.streams]

theorem Run.started (h : Run s actions s') (H : Started s n) :
    Started s' (n + actions.countP (·.isStart)) := by
  induction h generalizing n with
  | done => exact H
  | step hfirst _ ih =>
    rw [List.countP_cons, Nat.add_comm (List.countP _ _), ← Nat.add_assoc]
    exact ih (H.step hfirst)

/-- After a single start every reader resolves the present table. -/
theorem Started.tableOf_eq (H : Started s 1) (hserver : server < s.streams.length) :
    s.client.tableOf server = s.client.table := by
  rw [H.streams] at hserver
  have hmem : s.client.tableOf server ∈ s.client.readers := by
    rw [Client.tableOf, List.getD_eq_getElem?_getD, List.getElem?_eq_getElem hserver]
    exact List.getElem_mem hserver
  have hreader := H.readers _ hmem
  rw [H.table]
  omega

end AnalyzerClient.Traffic
