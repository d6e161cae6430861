import ModelCheck.Proofs.System.Consistency

/-!
# Stopping

A stop terminates the process of the run in the slot, or is kept until that run has a process. In
every history a stop that was kept is carried out once, when the process is attached and before its
display is opened, and a process is terminated only on behalf of its own run.
-/

namespace ModelCheck

/-- The run that an event displays something of, or applies the diagnostics of. -/
def Event.shownRun? : Event → Option RunId
  | .revealEmpty run => some run
  | .update run _ => some run
  | .apply run _ => some run
  | _ => none

namespace System

variable {site : Site} {s s' : System} {a : Action} {noted : List Event} {run : RunId}

/-! ### Stops that are kept -/

/-- An action requests a stop while the process of a run is being spawned. -/
def Defers (s : System) (a : Action) (run : RunId) : Prop :=
  s.IsStop a ∧ ∃ active, s.controller.slot = some active ∧ active.id = run ∧ active.process = none

/-- In the course of actions a stop was requested while the process of a run was being spawned. -/
def StopDeferred (site : Site) (actions : List Action) (run : RunId) : Prop :=
  ∃ before a rest, actions = before ++ a :: rest ∧ Defers (after site before) a run

/-- A stop has been kept for a run if it was before, or is by the last action. -/
theorem stopDeferred_concat {actions : List Action} :
    StopDeferred site (actions ++ [a]) run ↔
      StopDeferred site actions run ∨ Defers (after site actions) a run := by
  constructor
  · rintro ⟨before, b, rest, hsplit, hdefers⟩
    rcases List.eq_nil_or_concat rest with rfl | ⟨rest', c, rfl⟩
    · obtain ⟨rfl, hb⟩ := List.append_inj' hsplit rfl
      cases hb
      exact .inr hdefers
    · rw [List.concat_eq_append, ← List.cons_append, ← List.append_assoc] at hsplit
      obtain ⟨rfl, _⟩ := List.append_inj' hsplit rfl
      exact .inl ⟨before, b, rest', rfl, hdefers⟩
  · rintro (⟨before, b, rest, rfl, hdefers⟩ | hdefers)
    · exact ⟨before, b, rest ++ [a], by simp, hdefers⟩
    · exact ⟨actions, a, [], rfl, hdefers⟩

/-- With an empty slot a stop changes nothing. -/
theorem stop_of_empty (hslot : s.controller.slot = none) :
    s.stop = (s, [.info nothingRunningMessage], .nothingRunning) := by
  rw [stop_eq, hslot, Controller.stop_of_empty hslot]
  rfl

/-- A stop of a run that has a process changes that process. -/
theorem stop_of_process {active : ActiveRun} {process : ProcessId}
    (hslot : s.controller.slot = some active) (hprocess : active.process = some process) :
    s.stop =
      (s.modifyProcess process Process.terminate, [.terminate process], .terminationRequested) := by
  rw [stop_eq, hslot, Option.bind_some, hprocess, Controller.stop_of_process hslot hprocess]
  rfl

/-- A stop of a run that has no process changes its mark in the slot. -/
theorem stop_of_spawning {active : ActiveRun} (hslot : s.controller.slot = some active)
    (hnone : active.process = none) :
    s.stop = (s.setController { s.controller with
      slot := some { active with stopRequested := true } }, [], .terminationRequested) := by
  have hprocess : s.controller.slot.bind (·.process) = none := by
    rw [hslot, Option.bind_some, hnone]
  rw [stop_eq, hprocess, Controller.stop_of_spawning hslot hnone]
  rfl

/-- A stop finds nothing to stop just when the slot is empty. -/
theorem stop_eq_nothingRunning_iff : s.stop.2.2 = .nothingRunning ↔ s.controller.slot = none := by
  cases hslot : s.controller.slot with
  | none => rw [stop_of_empty hslot]; exact iff_of_true rfl rfl
  | some active =>
    refine iff_of_false ?_ (by simp)
    cases hprocess : active.process with
    | none => rw [stop_of_spawning hslot hprocess]; simp
    | some process => rw [stop_of_process hslot hprocess]; simp

/-- A step that requests a stop does to the controller and the processes what the stop does. -/
theorem step_of_isStop (h : s.IsStop a) :
    (s.step a).1.controller = s.stop.1.controller ∧
      (s.step a).1.processes = s.stop.1.processes ∧ (s.step a).2 = s.stop.2.1 := by
  rcases h with rfl | ⟨task, rfl, ht⟩
  · exact ⟨rfl, rfl, rfl⟩
  · simp [step, ht, beginTask]

/-- A run for which a stop has been kept has been admitted. -/
theorem StopDeferred.lt {actions : List Action} (h : StopDeferred site actions run) :
    run < (after site actions).controller.nextRun := by
  induction actions using List.reverseRecOn with
  | nil =>
    obtain ⟨before, b, rest, hsplit, _⟩ := h
    cases before <;> cases hsplit
  | append_singleton actions a ih =>
    have hle := (change_after site actions a).nextRun_le
    rcases stopDeferred_concat.mp h with hbefore | ⟨_, active, hslot, rfl, _⟩
    · exact Nat.lt_of_lt_of_le (ih hbefore) hle
    · refine Nat.lt_of_lt_of_le ?_ hle
      rw [(consistent_after site actions).held_last hslot]
      exact Nat.lt_succ_self _

/-- While a run has no process, its mark in the slot tells whether a stop has been kept for it. -/
theorem stopRequested_iff (actions : List Action) {active : ActiveRun}
    (hslot : (after site actions).controller.slot = some active) (hnone : active.process = none) :
    active.stopRequested = true ↔ StopDeferred site actions active.id := by
  induction actions using List.reverseRecOn generalizing active with
  | nil => cases hslot
  | append_singleton actions a ih =>
    rw [stopDeferred_concat]
    by_cases hdefers : Defers (after site actions) a active.id
    · refine iff_of_true ?_ (.inr hdefers)
      obtain ⟨hstop, before, hbefore, hid, hprocess⟩ := hdefers
      rw [after_concat, (step_of_isStop hstop).1, stop_of_spawning hbefore hprocess,
        setController_controller] at hslot
      cases hslot
      rfl
    · rw [or_iff_left hdefers]
      cases change_after site actions a with
      | quiet hc hr hp he => rw [hc] at hslot; exact ih hslot hnone
      | reserved hempty hc hr hp he =>
        rw [hc] at hslot
        cases hslot
        exact iff_of_false (by simp) (fun h => absurd h.lt (Nat.lt_irrefl _))
      | attached hheld hprocess ht hc hr hp hrun hhooked he =>
        rw [hc] at hslot
        cases hslot
        cases hnone
      | @deferred before hheld hprocess ha hc hr hp he =>
        rw [hc] at hslot
        cases hslot
        exact absurd ⟨ha, before, hheld, rfl, hprocess⟩ hdefers
      | failedEarly hheld hprocess ht hc hr hp he => rw [hc] at hslot; cases hslot
      | abandoned hheld hprocess ht hc hr hp he => rw [hc] at hslot; cases hslot
      | failed hheld hprocess ht hc hr hp he =>
        rw [hc] at hslot
        cases hslot
        rw [hprocess] at hnone
        cases hnone
      | failedLate hempty ht hc hr hp he => rw [hc, hempty] at hslot; cases hslot
      | completed hheld hprocess hget hrun hexit hc hr hp he => rw [hc] at hslot; cases hslot

/-! ### Runs without a process -/

/-- A run has a process. -/
def HasProcess (s : System) (run : RunId) : Prop :=
  ∃ (process : ProcessId) (p : Process), s.processes[process]? = some p ∧ p.run = run

/-- A run keeps its process. -/
theorem HasProcess.of_change (h : HasProcess s run) (hchange : Change s a s' noted) :
    HasProcess s' run := by
  obtain ⟨process, p, hget, rfl⟩ := h
  obtain ⟨q, hq, hrun⟩ := hchange.process hget
  exact ⟨process, q, hq, hrun⟩

/-- A task that is attached has its run's process. -/
theorem Consistent.hasProcess (h : Consistent s) {task : TaskId} {process : ProcessId}
    (ht : s.role task = .attached run process) : HasProcess s run := by
  obtain ⟨p, hget, hrun⟩ := h.attached_process ht
  exact ⟨process, p, hget, hrun⟩

/-- What is displayed or applied for a run is displayed or applied after it got its process. -/
theorem Consistent.hasProcess_of_mem (h : Consistent s) {e : Event} (he : e ∈ (s.step a).2)
    (hshows : e.shownRun? = some run) : HasProcess (s.step a).1 run := by
  have hchange := h.change_step a
  cases cause_of_mem he with
  | other hother => cases e <;> cases hother <;> cases hshows
  | stop ha hslot hprocess => cases hshows
  | deferredStop ht hslot hrequested => cases hshows
  | failure hfails hslot hprocess => cases hshows
  | drop ht => cases hshows
  | error hfails text => cases hshows
  | @attached task r file pid termination ht =>
    cases hshows
    obtain ⟨active, _, _, _, hprocesses, _⟩ := h.step_spawned ht pid termination
    refine ⟨s.processes.length, newProcess run pid termination active.stopRequested, ?_, ?_⟩
    · rw [hprocesses, List.getElem?_concat_length]
    · exact (later_newProcess run pid termination _).run
  | delivered ht hget hmem =>
    cases hshows
    exact (h.hasProcess (role_of_task ht)).of_change hchange
  | last ht hget hfeed hended hmem =>
    cases hshows
    exact (h.hasProcess (role_of_task ht)).of_change hchange
  | applied ht hget hfeed hended =>
    cases hshows
    exact (h.hasProcess (role_of_task ht)).of_change hchange

/-- A run for which anything has been displayed or applied in a history has its process. -/
theorem hasProcess_after (actions : List Action) :
    ∀ e ∈ history site actions, e.shownRun? = some run → HasProcess (after site actions) run := by
  refine after_induction
    (P := fun _ s events => ∀ e ∈ events, e.shownRun? = some run → HasProcess s run)
    (fun _ he => by cases he) (fun actions a ih e he hshows => ?_) actions
  have h := consistent_after site actions
  rcases List.mem_append.mp he with he | he
  · exact (ih e he hshows).of_change (h.change_step a)
  · exact h.hasProcess_of_mem he hshows

/-! ### Why a process is terminated -/

/-- Why an action, after others, requests the termination of a process. -/
inductive Terminates (site : Site) (before : List Action) : Action → ProcessId → Prop
  /-- A stop, while the run of the process is in the slot. -/
  | stop {a : Action} {active : ActiveRun} {process : ProcessId} {p : Process}
      (ha : (after site before).IsStop a) (hslot : (after site before).controller.slot = some active)
      (hget : (after site before).processes[process]? = some p) (hrun : p.run = active.id) :
      Terminates site before a process
  /-- A stop that was kept while the process was being spawned, when it is attached. -/
  | deferred {task : TaskId} {run : RunId} {file : Path} {pid : Option Nat}
      {termination : Termination}
      (ht : (after site before).tasks[task]? = some (.spawning run file))
      (hstop : StopDeferred site before run) :
      Terminates site before (.spawned task (.process pid termination))
        (after site before).processes.length
  /-- A failure of the run of the process, while it is in the slot. -/
  | failure {a : Action} {active : ActiveRun} {process : ProcessId} {p : Process}
      (hfails : Fails (after site before) a active.id)
      (hslot : (after site before).controller.slot = some active)
      (hget : (after site before).processes[process]? = some p) (hrun : p.run = active.id) :
      Terminates site before a process
  /-- The task that is attached to the process is dropped. -/
  | dropped {task : TaskId} {run : RunId} {process : ProcessId} {p : Process}
      (ht : (after site before).role task = .attached run process)
      (hget : (after site before).processes[process]? = some p) (hrun : p.run = run) :
      Terminates site before (.abort task) process

/-- Every termination that a step requests has a reason in the history before it. -/
theorem terminates_of_mem {before : List Action} {process : ProcessId}
    (h : .terminate process ∈ ((after site before).step a).2) : Terminates site before a process := by
  have hconsistent := consistent_after site before
  cases cause_of_mem h with
  | other h => cases h
  | stop ha hslot hprocess =>
    obtain ⟨p, hget, hrun, _⟩ := hconsistent.held_hooked hslot hprocess
    exact .stop ha hslot hget hrun
  | deferredStop ht hslot hrequested =>
    obtain ⟨active, hactive, _, _, hnone⟩ :=
      hconsistent.spawning_held (role_eq_spawning_iff.mpr ht)
    rw [hslot] at hactive
    cases hactive
    exact .deferred ht ((stopRequested_iff before hslot hnone).mp hrequested)
  | failure hfails hslot hprocess =>
    obtain ⟨p, hget, hrun, _⟩ := hconsistent.held_hooked hslot hprocess
    exact .failure hfails hslot hget hrun
  | drop ht =>
    obtain ⟨p, hget, hrun⟩ := hconsistent.attached_process ht
    exact .dropped ht hget hrun

/-- A process that is terminated exists, or is attached in the same step. -/
theorem Terminates.lt {before : List Action} {process : ProcessId}
    (h : Terminates site before a process) :
    process < (after site (before ++ [a])).processes.length := by
  have hkept : ∀ {p : Process}, (after site before).processes[process]? = some p →
      process < (after site (before ++ [a])).processes.length := by
    intro p hget
    obtain ⟨q, hq, _⟩ := (change_after site before a).process hget
    exact (List.getElem?_eq_some_iff.mp hq).1
  cases h with
  | stop ha hslot hget hrun => exact hkept hget
  | @deferred task run file pid termination ht hstop =>
    obtain ⟨_, _, _, _, hprocesses, _⟩ :=
      (consistent_after site before).step_spawned ht pid termination
    rw [after_concat, hprocesses, List.length_append]
    exact Nat.lt_succ_self _
  | failure hfails hslot hget hrun => exact hkept hget
  | dropped ht hget hrun => exact hkept hget

/-- Before a process exists nobody terminates it. -/
theorem lt_of_terminate_mem (actions : List Action) :
    ∀ process, .terminate process ∈ history site actions →
      process < (after site actions).processes.length := by
  induction actions using List.reverseRecOn with
  | nil => intro process h; cases h
  | append_singleton actions a ih =>
    intro process h
    rw [history_concat, List.mem_append] at h
    rcases h with h | h
    · have hget := List.getElem?_eq_getElem (ih process h)
      obtain ⟨q, hq, _⟩ := (change_after site actions a).process hget
      exact (List.getElem?_eq_some_iff.mp hq).1
    · exact (terminates_of_mem h).lt

/-! ### The contract -/

/-- Stopping, after actions from the start. -/
structure Stopping (site : Site) (actions : List Action) : Prop where
  outcome : (after site actions).stop.2.2 = .nothingRunning ↔
    (after site actions).controller.slot = none
  /-- With an empty slot a stop says so and changes nothing. -/
  empty : (after site actions).controller.slot = none →
    (after site actions).stop =
      (after site actions, [.info nothingRunningMessage], .nothingRunning)
  /-- A stop of a run that has a process terminates that process, and that is all. -/
  attached : ∀ active process, (after site actions).controller.slot = some active →
    active.process = some process →
    (after site actions).stop =
        ((after site actions).modifyProcess process Process.terminate, [.terminate process],
          .terminationRequested) ∧
      ∃ p : Process, (after site actions).processes[process]? = some p ∧ p.run = active.id
  /-- A stop of a run that has no process is marked in the slot, and that is all. -/
  spawning : ∀ active, (after site actions).controller.slot = some active →
    active.process = none →
    (after site actions).stop =
      ((after site actions).setController { (after site actions).controller with
        slot := some { active with stopRequested := true } }, [], .terminationRequested)
  /-- Every request to stop is such a stop. -/
  request : ∀ a, (after site actions).IsStop a →
    (after site (actions ++ [a])).controller = (after site actions).stop.1.controller ∧
      (after site (actions ++ [a])).processes = (after site actions).stop.1.processes ∧
      ((after site actions).step a).2 = (after site actions).stop.2.1
  /-- When a process is attached, the stops that were kept for it terminate it once, before the
  display is opened. -/
  deferred : ∀ task run file pid termination,
    (after site actions).tasks[task]? = some (.spawning run file) →
    (StopDeferred site actions run →
      ((after site actions).step (.spawned task (.process pid termination))).2 =
        [.terminate (after site actions).processes.length, .revealEmpty run]) ∧
    (¬ StopDeferred site actions run →
      ((after site actions).step (.spawned task (.process pid termination))).2 =
        [.revealEmpty run]) ∧
    ∃ p : Process, (after site (actions ++ [.spawned task (.process pid termination)])).processes[
        (after site actions).processes.length]? = some p ∧ p.run = run
  /-- Before that nothing is displayed or applied for the run. -/
  unread : ∀ (task : TaskId) (run : RunId) (file : Path),
    (after site actions).tasks[task]? = some (.spawning run file) →
    ∀ e ∈ history site actions, e.shownRun? ≠ some run
  /-- Before that nobody terminates the process. -/
  fresh : ∀ process, .terminate process ∈ history site actions →
    process < (after site actions).processes.length
  /-- Whenever a process is terminated, its own run or its own task is the reason. -/
  cause : ∀ process, .terminate process ∈ history site actions → ∃ before a rest,
    actions = before ++ a :: rest ∧ .terminate process ∈ ((after site before).step a).2 ∧
      Terminates site before a process

/-- In every history no stop is lost and no process is terminated by mistake. -/
theorem stopping (site : Site) (actions : List Action) : Stopping site actions := by
  have h := consistent_after site actions
  refine ⟨stop_eq_nothingRunning_iff, stop_of_empty, ?attached, fun active => stop_of_spawning,
    ?request, ?deferred, ?unread, lt_of_terminate_mem actions, ?cause⟩
  case attached =>
    intro active process hslot hprocess
    obtain ⟨p, hget, hrun, _⟩ := h.held_hooked hslot hprocess
    exact ⟨stop_of_process hslot hprocess, p, hget, hrun⟩
  case request =>
    intro a ha
    rw [after_concat]
    exact step_of_isStop ha
  case deferred =>
    intro task run file pid termination ht
    obtain ⟨active, hslot, rfl, hnone, hprocesses, hevents⟩ := h.step_spawned ht pid termination
    have hrequested := stopRequested_iff actions hslot hnone
    refine ⟨fun hstop => ?_, fun hstop => ?_, ?_⟩
    · rw [hevents, if_pos (hrequested.mpr hstop)]
      rfl
    · rw [hevents, if_neg (fun hmark => hstop (hrequested.mp hmark))]
      rfl
    · rw [after_concat, hprocesses, List.getElem?_concat_length]
      exact ⟨_, rfl, (later_newProcess ..).run⟩
  case unread =>
    intro task run file ht e he hshown
    obtain ⟨active, hslot, hid, _, hnone⟩ := h.spawning_held (role_eq_spawning_iff.mpr ht)
    obtain ⟨process, p, hget, hrun⟩ := hasProcess_after actions e he hshown
    have hprocess := h.held_process hslot hget (hrun.trans hid.symm)
    rw [hnone] at hprocess
    cases hprocess
  case cause =>
    intro process hmem
    obtain ⟨before, a, rest, hsplit, hstep⟩ := exists_step_of_mem_history hmem
    exact ⟨before, a, rest, hsplit, hstep, terminates_of_mem hstep⟩

end System

end ModelCheck
