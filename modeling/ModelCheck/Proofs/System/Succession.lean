import ModelCheck.Proofs.System.Display
import ModelCheck.Proofs.System.Failure
import ModelCheck.Proofs.System.Published

/-!
# One run after another

The hook of a process lets go of its run when the process has exited, and another run may follow
while the task of the earlier one still reads, applies diagnostics, fails or is dropped. None of its
steps touches the run that has followed: the slot, the published state, the indicator and the status
surface stay as they are, and no process of that run is terminated.
-/

namespace ModelCheck

namespace System

variable {site : Site} {s s' s'' : System} {actions : List Action} {a : Action} {task : TaskId}
  {run : RunId} {file : Path} {stage : Stage} {process : ProcessId} {p : Process}
  {active : ActiveRun} {events more : List Event}

/-- A run in the slot is left alone: the controller and the status surface stay as they are, and no
process of the run is terminated or changed. -/
structure LeavesAlone (active : ActiveRun) (s s' : System) (events : List Event) : Prop where
  controller : s'.controller = s.controller
  status : statusCalls events = []
  terminations : ∀ process ∈ terminations events, ∀ p : Process,
    s.processes[process]? = some p → p.run ≠ active.id
  processes : ∀ (i : ProcessId) (p : Process), s.processes[i]? = some p → p.run = active.id →
    s'.processes[i]? = some p

/-- A step that does nothing leaves a run alone. -/
theorem LeavesAlone.refl (active : ActiveRun) (s : System) : LeavesAlone active s s [] :=
  ⟨rfl, rfl, fun _ h => absurd h List.not_mem_nil, fun _ _ hp _ => hp⟩

/-- Two steps that leave a run alone do so together. -/
theorem LeavesAlone.trans (h₁ : LeavesAlone active s s' events)
    (h₂ : LeavesAlone active s' s'' more) : LeavesAlone active s s'' (events ++ more) where
  controller := h₂.controller.trans h₁.controller
  status := by
    rw [statusCalls, List.filter_append, ← statusCalls, ← statusCalls, h₁.status, h₂.status,
      List.append_nil]
  terminations := by
    intro process hmem p hget hrun
    rw [terminations_append, List.mem_append] at hmem
    rcases hmem with hmem | hmem
    · exact h₁.terminations process hmem p hget hrun
    · exact h₂.terminations process hmem p (h₁.processes process p hget hrun) hrun
  processes := fun i p hp hrun => h₂.processes i p (h₁.processes i p hp hrun) hrun

/-! ### What leaves the run in the slot alone -/

/-- Moving a task, once other things have been done. -/
theorem LeavesAlone.setTask (h : LeavesAlone active s s' events) (task : TaskId) (next : Stage) :
    LeavesAlone active s (s'.setTask task next) events :=
  ⟨h.controller, h.status, h.terminations, h.processes⟩

/-- Changing a process of another run. -/
theorem leavesAlone_modifyProcess (hget : s.processes[process]? = some p) (hne : p.run ≠ active.id)
    (f : Process → Process) : LeavesAlone active s (s.modifyProcess process f) [] := by
  refine ⟨rfl, rfl, fun _ h => absurd h List.not_mem_nil, fun i q hq hrun => ?_⟩
  refine get_modify_of_ne f hq ?_
  rintro rfl
  rw [hget] at hq
  cases hq
  exact hne hrun

/-- Terminating a process of another run. -/
theorem leavesAlone_terminate (hget : s.processes[process]? = some p) (hne : p.run ≠ active.id) :
    LeavesAlone active s (s.terminate process).1 (s.terminate process).2 := by
  refine ⟨rfl, rfl, fun target hmem q hq => ?_,
    (leavesAlone_modifyProcess hget hne Process.terminate).processes⟩
  cases List.mem_singleton.mp hmem
  rw [hget] at hq
  cases hq
  exact hne

/-- Updates of the display do not call the status surface. -/
theorem statusCalls_update (run : RunId) (delivered : List Snapshot) :
    statusCalls (delivered.map (Event.update run)) = [] := by
  rw [← statusCalls_filter, filter_update]
  rfl

/-- Updating the display. -/
theorem leavesAlone_update (active : ActiveRun) (s : System) (run : RunId)
    (delivered : List Snapshot) : LeavesAlone active s s (delivered.map (Event.update run)) := by
  refine ⟨rfl, statusCalls_update run delivered, fun process hmem => ?_, fun _ _ hp _ => hp⟩
  rw [terminations_update] at hmem
  cases hmem

/-- Applying diagnostics. -/
theorem leavesAlone_apply (active : ActiveRun) (s : System) (run : RunId)
    (diagnostics : Collection) : LeavesAlone active s s [.apply run diagnostics] :=
  ⟨rfl, rfl, fun _ h => absurd h List.not_mem_nil, fun _ _ hp _ => hp⟩

/-- Failing while another run is in the slot. -/
theorem leavesAlone_failCheck (hslot : s.controller.slot = some active) (hne : active.id ≠ run)
    (task : TaskId) (e : CheckError) :
    LeavesAlone active s (s.failCheck task run e).1 (s.failCheck task run e).2 := by
  rw [failCheck_eq, Controller.fail_of_ne hslot hne]
  exact ⟨rfl, rfl, fun _ h => absurd h List.not_mem_nil, fun _ _ hp _ => hp⟩

/-- Every step of a task that is attached to a process of another run. -/
theorem Consistent.leavesAlone_own (h : Consistent s) (hslot : s.controller.slot = some active)
    (ht : s.tasks[task]? = some stage) (hrole : stage.role = .attached run process)
    (hne : active.id ≠ run) (hawaits : Awaits task stage a) :
    LeavesAlone active s (s.step a).1 (s.step a).2 := by
  obtain ⟨p, hget, rfl⟩ := h.attached_process ((role_of_task ht).trans hrole)
  cases hawaits with
  | begin r => cases hrole
  | answer accepted => cases hrole
  | wake => cases hrole
  | spawned other file result => cases hrole
  | read other target reader now =>
    cases hrole
    -- what is taken is the output of the task's own process, and it goes to the display only
    rcases hfeed : feedChunks now p.arrived reader with ⟨reader', others, failure⟩
    have hclosed := leavesAlone_modifyProcess hget hne.symm
      fun p => { p with arrived := [], readable := false }
    have hupdated := hclosed.trans (leavesAlone_update active _ p.run others)
    cases failure with
    | some cause =>
      rw [step_read_of_failure ht hget hfeed]
      exact hupdated.trans (leavesAlone_failCheck (by exact hslot) hne ..)
    | none =>
      cases hopen : p.writable with
      | true =>
        have htaken := leavesAlone_modifyProcess hget hne.symm fun p => { p with arrived := [] }
        have htold := htaken.trans (leavesAlone_update active _ p.run others)
        rw [step_read_of_open ht hget hfeed hopen]
        exact htold.setTask ..
      | false =>
        have hlast := hupdated.trans (leavesAlone_update active _ p.run (reader'.finish now).2)
        rw [step_read_of_ended ht hget hfeed hopen]
        exact (hlast.trans (leavesAlone_apply ..)).setTask ..
  | applied other target total failure =>
    cases hrole
    cases failure with
    | none =>
      simp only [System.step, ht]
      exact (LeavesAlone.refl active s).setTask ..
    | some cause =>
      simp only [System.step, ht]
      exact leavesAlone_failCheck hslot hne ..
  | abort hstage =>
    -- the process that is terminated is the task's own
    cases stage with
    | reading other target reader =>
      cases hrole
      have hclosed := leavesAlone_modifyProcess hget hne.symm
        fun p => { p with arrived := [], readable := false }
      simp only [System.step, abort, ht]
      refine (hclosed.setTask task (.ended .cancelled)).trans ?_
      refine leavesAlone_terminate (p := { p with arrived := [], readable := false }) ?_ hne.symm
      simp [hget]
    | applying other target total =>
      cases hrole
      simp only [System.step, abort, ht]
      refine ((LeavesAlone.refl active s).setTask task (.ended .cancelled)).trans ?_
      exact leavesAlone_terminate (by exact hget) hne.symm
    | _ => cases hrole

/-! ### A run that has finished -/

/-- A run has finished once the hook of its process has seen the exit. -/
def Finished (s : System) (run : RunId) : Prop :=
  ∃ (process : ProcessId) (p : Process),
    s.processes[process]? = some p ∧ p.run = run ∧ p.hooked = false

/-- A run that has finished stays finished. -/
theorem finished_after {before : List Action} (h : (after site before).Finished run)
    (rest : List Action) : (after site (before ++ rest)).Finished run := by
  obtain ⟨process, p, hget, rfl, hunhooked⟩ := h
  obtain ⟨q, hq, hrun, hkept⟩ := process_after hget rest
  exact ⟨process, q, hq, hrun, hkept hunhooked⟩

/-- A run that has finished is not in the slot. -/
theorem Consistent.ne_of_finished (h : Consistent s) (hslot : s.controller.slot = some active)
    (hfinished : s.Finished run) : active.id ≠ run := by
  obtain ⟨process, p, hget, rfl, hunhooked⟩ := hfinished
  intro hid
  have hhooked := (h.held_iff_hooked hget).mp ⟨active, hslot, hid⟩
  rw [hunhooked] at hhooked
  cases hhooked

/-- The task of a run spawns its process, is attached to it, or has ended. -/
theorem Course.role {events : List Event} (h : Course site actions task run file stage events) :
    stage.role = .spawning run file ∨ (∃ process, stage.role = .attached run process) ∨
      ∃ result, stage = .ended result := by
  cases h with
  | spawning => exact .inl rfl
  | reading hget hreadable hreached hall => exact .inr (.inl ⟨_, rfl⟩)
  | applying hparsed => exact .inr (.inl ⟨_, rfl⟩)
  | _ => exact .inr (.inr ⟨_, rfl⟩)

/-- Any step of the task of a run leaves another run in the slot alone. -/
theorem Admitted.leavesAlone (h : Admitted site actions task run file)
    (hslot : (after site actions).controller.slot = some active) (hne : active.id ≠ run)
    (ha : a.task? = some task) :
    LeavesAlone active (after site actions) ((after site actions).step a).1
      ((after site actions).step a).2 := by
  have hconsistent := consistent_after site actions
  obtain ⟨stage, ht, hcourse⟩ := h.course
  rcases awaits_or_refused ht ha with hawaits | hrefused
  · rcases hcourse.role with hrole | ⟨process, hrole⟩ | ⟨result, rfl⟩
    · obtain ⟨other, hother, hid, _⟩ := hconsistent.spawning_held ((role_of_task ht).trans hrole)
      rw [hslot] at hother
      cases hother
      exact absurd hid hne
    · exact hconsistent.leavesAlone_own hslot ht hrole hne hawaits
    · cases hawaits with
      | abort hstage => exact absurd rfl (hstage result)
  · rw [hrefused]
    exact .refl ..

/-! ### The contract -/

/-- What a run that has finished is to those that follow it. -/
structure Harmless (site : Site) (actions : List Action) (task : TaskId) (run : RunId) : Prop where
  /-- It stays finished, and does not come back to the slot. -/
  gone : ∀ rest, (after site (actions ++ rest)).Finished run ∧
    ∀ active, (after site (actions ++ rest)).controller.slot = some active → active.id ≠ run
  /-- Each step that its task still takes leaves the run alone that is in the slot by then. -/
  steps : ∀ rest a active, a.task? = some task →
    (after site (actions ++ rest)).controller.slot = some active →
    LeavesAlone active (after site (actions ++ rest)) (after site (actions ++ rest ++ [a]))
      ((after site (actions ++ rest)).step a).2

/-- In every history a run that has finished is harmless to those that follow it. -/
theorem finished_harmless (hadmitted : Admitted site actions task run file)
    (hfinished : (after site actions).Finished run) : Harmless site actions task run := by
  have hgone : ∀ rest active, (after site (actions ++ rest)).controller.slot = some active →
      active.id ≠ run := fun rest active hslot =>
    (consistent_after site (actions ++ rest)).ne_of_finished hslot (finished_after hfinished rest)
  refine ⟨fun rest => ⟨finished_after hfinished rest, hgone rest⟩, ?_⟩
  intro rest a active ha hslot
  rw [after_concat]
  exact (hadmitted.append rest).leavesAlone hslot (hgone rest active hslot) ha

/-- The first run of two is harmless to the second, which is in the slot while the task of the first
still reads: dropping that task leaves the second run alone. -/
theorem secondCheck_leftAlone :
    Admitted workSite secondCheck 0 0 ⟨"/specs/Queue.tla"⟩ ∧
      (after workSite secondCheck).Finished 0 ∧
      (after workSite secondCheck).tasks[0]? =
        some (.reading 0 0 (workSite.reader ⟨"/specs/Queue.tla"⟩)) ∧
      (after workSite secondCheck).controller.slot =
        some ⟨1, ⟨"/specs/Other.tla"⟩, none, false, false⟩ ∧
      LeavesAlone ⟨1, ⟨"/specs/Other.tla"⟩, none, false, false⟩ (after workSite secondCheck)
        (after workSite (secondCheck ++ [.abort 0]))
        ((after workSite secondCheck).step (.abort 0)).2 := by
  have hadmitted : Admitted workSite secondCheck 0 0 ⟨"/specs/Queue.tla"⟩ := by
    refine ⟨[.openDocument ⟨"/specs/Queue.tla"⟩, .request .check], _, rfl, ?_, ?_, ?_⟩
    · exact ⟨.check, rfl, .inl rfl⟩
    · decide
    · decide
  have hfinished : (after workSite secondCheck).Finished 0 := by
    refine ⟨0, { Process.spawned 0 (some 4242) .kill with
      exit := .reported (.exited 0), hooked := false }, ?_, rfl, rfl⟩
    decide
  have hslot : (after workSite secondCheck).controller.slot =
      some ⟨1, ⟨"/specs/Other.tla"⟩, none, false, false⟩ := by decide
  have hharmless := finished_harmless hadmitted hfinished
  exact ⟨hadmitted, hfinished, by rfl, hslot, hharmless.steps [] (.abort 0) _ rfl hslot⟩

end System

end ModelCheck
