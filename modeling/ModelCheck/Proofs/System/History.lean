import Mathlib.Data.List.Induction
import ModelCheck.Proofs.System.Transition

/-!
# Histories

A history is what a list of actions makes of a system in which nothing has happened: the system it
leaves and the events on the way. Any list of actions is a history, since an action that cannot
happen changes nothing; so statements about all histories are statements about every order of steps.
-/

namespace ModelCheck.System

variable {site : Site}

/-- The site of the histories that are given as instances. -/
def workSite : Site := ⟨some ⟨"/work"⟩, .utc⟩

/-- The system after actions from the start. -/
def after (site : Site) (actions : List Action) : System := ((start site).run actions).1

/-- The events of actions from the start. -/
def history (site : Site) (actions : List Action) : List Event := ((start site).run actions).2

/-- Running actions one group after the other runs them all. -/
theorem run_append (s : System) (before rest : List Action) :
    s.run (before ++ rest) =
      (((s.run before).1.run rest).1, (s.run before).2 ++ ((s.run before).1.run rest).2) := by
  induction before generalizing s with
  | nil => simp [run]
  | cons a before ih => simp [run, ih]

/-- Running one action is a step. -/
@[simp] theorem run_singleton (s : System) (a : Action) : s.run [a] = s.step a := by
  simp [run]

/-- Nothing has changed at the start. -/
@[simp] theorem after_nil : after site [] = start site := rfl

/-- Nothing has happened at the start. -/
@[simp] theorem history_nil : history site [] = [] := rfl

/-- A history goes on from what its first actions have left. -/
theorem after_append (before rest : List Action) :
    after site (before ++ rest) = ((after site before).run rest).1 := by
  rw [after, run_append, after]

/-- One more action is one more step. -/
theorem after_concat (actions : List Action) (a : Action) :
    after site (actions ++ [a]) = ((after site actions).step a).1 := by
  rw [after, run_append, run_singleton, after]

/-- One more action adds the events of its step. -/
theorem history_concat (actions : List Action) (a : Action) :
    history site (actions ++ [a]) = history site actions ++ ((after site actions).step a).2 := by
  rw [history, run_append, run_singleton, history, after]

/-- What holds at the start, and of each step's result if it held before, holds after all
actions. -/
theorem after_induction {P : List Action → System → List Event → Prop}
    (hstart : P [] (start site) [])
    (hstep : ∀ actions a, P actions (after site actions) (history site actions) →
      P (actions ++ [a]) ((after site actions).step a).1
        (history site actions ++ ((after site actions).step a).2))
    (actions : List Action) : P actions (after site actions) (history site actions) := by
  induction actions using List.reverseRecOn with
  | nil => exact hstart
  | append_singleton actions a ih =>
    rw [after_concat, history_concat]
    exact hstep actions a ih

/-- Every event of a history belongs to one step of it. -/
theorem exists_step_of_mem_history {actions : List Action} {e : Event}
    (h : e ∈ history site actions) :
    ∃ before a rest, actions = before ++ a :: rest ∧ e ∈ ((after site before).step a).2 := by
  induction actions using List.reverseRecOn with
  | nil => simp at h
  | append_singleton actions a ih =>
    rw [history_concat, List.mem_append] at h
    rcases h with h | h
    · obtain ⟨before, b, rest, hsplit, hmem⟩ := ih h
      exact ⟨before, b, rest ++ [a], by simp [hsplit], hmem⟩
    · exact ⟨actions, a, [], rfl, h⟩

/-! ### The site -/

/-- Terminating processes does not move the system. -/
theorem terminateAll_site (process : Option ProcessId) (s : System) :
    (s.terminateAll process).site = s.site := by
  cases process <;> rfl

/-- A check that fails leaves the site as it is. -/
theorem failCheck_site (task : TaskId) (run : RunId) (e : CheckError) (s : System) :
    (s.failCheck task run e).1.site = s.site := by
  rw [failCheck_eq, terminateAll_site]
  rfl

/-- A stop leaves the site as it is. -/
theorem stop_site (s : System) : s.stop.1.site = s.site := by
  rw [stop_eq, terminateAll_site]
  rfl

/-- No step moves the system to another site. -/
theorem Transition.keeps_site {s s' : System} {a : Action} {events : List Event}
    (htransition : Transition s a s' events) : s'.site = s.site := by
  cases htransition with
  | stopped => exact stop_site s
  | taskStopped ht => exact stop_site s
  | attached ht pid termination => rw [attach_eq]; rfl
  | spawnFailed ht cause => exact failCheck_site ..
  | readFailed ht hp hfeed => exact failCheck_site ..
  | applyFailed ht cause => exact failCheck_site ..
  | _ => rfl

/-- The site is the one at the start. -/
theorem site_after (site : Site) (actions : List Action) : (after site actions).site = site :=
  after_induction (P := fun _ s _ => s.site = site) rfl
    (fun _ a h => (transition_step _ a).keeps_site.trans h) actions

end ModelCheck.System
