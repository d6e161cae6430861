import ModelCheck.Proofs.System.Change

/-!
# Every history is consistent

The transitions of a consistent system are read once more, now as changes of the slot. With that
every system that a history leaves is consistent, and every step from it is one of the nine changes.
-/

namespace ModelCheck

/-- Reading does not change what matters to the slot. -/
theorem Process.later_read (readable : Bool) (p : Process) :
    p.Later { p with arrived := [], readable := readable } := ⟨rfl, rfl, rfl, fun _ => rfl⟩

/-- Nor does the end of the output. -/
theorem Process.later_endOutput (p : Process) : p.Later { p with writable := false } :=
  ⟨rfl, rfl, rfl, fun _ => rfl⟩

namespace System

variable {s s' s₀ : System} {a : Action} {noted : List Event}

/-- A process that is terminated as soon as it is attached is a later state of the one that was spawned.
-/
theorem later_newProcess (run : RunId) (pid : Option Nat) (termination : Termination)
    (stopRequested : Bool) : (Process.spawned run pid termination).Later
      (newProcess run pid termination stopRequested) := by
  unfold newProcess
  split
  · exact .terminate _
  · exact .refl _

/-- Updates of the display are dropped by whatever drops one of them. -/
theorem filter_updates {keep : Event → Bool} {run : RunId}
    (h : (fun snapshot => keep (.update run snapshot)) = fun _ => false)
    (delivered : List Snapshot) : (delivered.map (Event.update run)).filter keep = [] := by
  rw [List.filter_eq_nil_iff]
  intro e he
  obtain ⟨snapshot, _, rfl⟩ := List.mem_map.mp he
  simpa using congrFun h snapshot

/-- Updates of the display are not noted. -/
theorem filter_update (run : RunId) (delivered : List Snapshot) :
    (delivered.map (Event.update run)).filter Event.isNoted = [] :=
  filter_updates rfl delivered

/-- A step is quiet if it leaves the controller alone and moves at most one task, which keeps its
role or leaves the run of its process. -/
theorem change_quiet {task : TaskId} {old stage : Stage} (h : s.tasks[task]? = some old)
    (hc : s'.controller = s.controller) (htasks : s'.tasks = s.tasks.set task stage)
    (hp : Later s.processes s'.processes)
    (hrole : stage.role = old.role ∨
      (∃ run process, old.role = .attached run process) ∧ stage.role = .bystander) :
    Change s a s' [] := by
  refine .quiet hc (fun t => ?_) hp rfl
  rw [recast_of_set h htasks rfl t]
  split
  · next heq => rw [heq, role_of_task h]; exact hrole
  · exact .inl rfl

/-- A step is quiet if it changes neither the controller nor a task. -/
theorem change_of_same (hc : s'.controller = s.controller) (htasks : s'.tasks = s.tasks)
    (hp : Later s.processes s'.processes) : Change s a s' [] :=
  .quiet hc (fun t => .inl (by rw [role, role, htasks])) hp rfl

/-- A stop in a consistent system. -/
theorem change_stop (ha : s.IsStop a) (hc : s'.controller = s.controller.stop.1)
    (hr : s'.role = s.role) (hp : s'.processes = s.stop.1.processes) :
    Change s a s' (s.controller.stop.2.1.filter Event.isNoted) := by
  have hlater : Later s.processes s'.processes := by
    rw [hp, stop_eq]
    exact later_terminateAll _ (s.setController s.controller.stop.1)
  cases hslot : s.controller.slot with
  | none =>
    have hstop := Controller.stop_of_empty hslot
    rw [hstop] at hc ⊢
    exact .quiet hc (fun t => .inl (by rw [hr])) hlater rfl
  | some active =>
    cases hprocess : active.process with
    | none =>
      have hstop := Controller.stop_of_spawning hslot hprocess
      rw [hstop] at hc ⊢
      refine .deferred hslot hprocess ha hc hr ?_ rfl
      rw [hp, stop_eq, hslot, Option.bind_some, hprocess]
      rfl
    | some process =>
      have hstop := Controller.stop_of_process hslot hprocess
      rw [hstop] at hc ⊢
      exact .quiet hc (fun t => .inl (by rw [hr])) hlater rfl

/-- What is noted of a failed check is the controller's part. -/
theorem failCheck_noted (task : TaskId) (run : RunId) (e : CheckError) (s : System) :
    (s.failCheck task run e).2.filter Event.isNoted = (s.controller.fail run).2.1 := by
  rw [failCheck_eq]
  rcases s.controller.fail_events run with hevents | hevents <;>
    cases (s.controller.fail run).2.2 <;> rw [hevents] <;> rfl

/-- A check that fails before its process exists clears the slot, which holds its run. -/
theorem Consistent.change_failCheck_spawning (h : Consistent s) {task : TaskId} {run : RunId}
    {file : Path} (ht : s.tasks[task]? = some (.spawning run file)) (e : CheckError) :
    Change s a (s.failCheck task run e).1 ((s.failCheck task run e).2.filter Event.isNoted) := by
  have hrole : s.role task = .spawning run file := role_eq_spawning_iff.mpr ht
  obtain ⟨active, hslot, rfl, rfl, hnone⟩ := h.spawning_held hrole
  have hfail := Controller.fail_of_spawning hslot hnone
  have hprocesses : (s.failCheck task active.id e).1.processes = s.processes := by
    rw [failCheck_eq, hfail]
    rfl
  refine .failedEarly hslot hnone hrole ?_ (recast_of_set ht (failCheck_tasks ..) rfl) hprocesses
    ?_
  · rw [failCheck_controller, hfail]
  · rw [failCheck_noted, hfail]

/-- A check that fails after its process was attached marks its run, if that is still in the slot.
If the slot is empty it only hides the indicator; a run that has followed is left alone. -/
theorem Consistent.change_failCheck_attached (h : Consistent s) {task : TaskId} {stage : Stage}
    {run : RunId} {process : ProcessId} (hc : s₀.controller = s.controller)
    (htasks : s₀.tasks = s.tasks) (hp : Later s.processes s₀.processes)
    (ht : s.tasks[task]? = some stage) (hstage : stage.role = .attached run process)
    (e : CheckError) :
    Change s a (s₀.failCheck task run e).1
      ((s₀.failCheck task run e).2.filter Event.isNoted) := by
  have hrole : s.role task = .attached run process := (role_of_task ht).trans hstage
  have hlater : Later s.processes (s₀.failCheck task run e).1.processes := by
    rw [failCheck_eq]
    have hterminated := later_terminateAll (s₀.controller.fail run).2.2
      ((s₀.setController (s₀.controller.fail run).1).setTask task
        (.ended (.checked (.failed e.message))))
    exact hp.trans hterminated
  have htasks' : (s₀.failCheck task run e).1.tasks =
      s.tasks.set task (.ended (.checked (.failed e.message))) := by
    rw [failCheck_tasks, htasks]
  have hr : s.Recast _ task .bystander := recast_of_set ht htasks' rfl
  rw [failCheck_noted, hc]
  cases hslot : s.controller.slot with
  | none =>
    have hfail := Controller.fail_of_empty hslot run
    exact .failedLate hslot hrole (by rw [failCheck_controller, hc, hfail]) hr hlater
      (by rw [hfail])
  | some active =>
    by_cases hid : active.id = run
    · obtain ⟨p, hget, hrun⟩ := h.attached_process hrole
      have hprocess := h.held_process hslot hget (hrun.trans hid.symm)
      subst hid
      have hfail := Controller.fail_of_process hslot hprocess
      exact .failed hslot hprocess hrole (by rw [failCheck_controller, hc, hfail]) hr hlater
        (by rw [hfail])
    · have hfail := Controller.fail_of_ne hslot hid
      rw [hfail]
      exact change_quiet ht (by rw [failCheck_controller, hc, hfail]) htasks' hlater
        (.inr ⟨⟨run, process, hstage⟩, rfl⟩)

/-- The process of the run that a task spawns for is attached to the slot. -/
theorem Consistent.change_attach (h : Consistent s) {task : TaskId} {run : RunId} {file : Path}
    (ht : s.tasks[task]? = some (.spawning run file)) (pid : Option Nat)
    (termination : Termination) :
    Change s a (s.attach task run file pid termination).1
      ((s.attach task run file pid termination).2.filter Event.isNoted) := by
  have hrole : s.role task = .spawning run file := role_eq_spawning_iff.mpr ht
  obtain ⟨active, hslot, rfl, rfl, hnone⟩ := h.spawning_held hrole
  have hattach := Controller.attach_of_held hslot active.file s.processes.length pid
  have hnew := later_newProcess active.id pid termination
  have htasks : (s.attach task active.id active.file pid termination).1.tasks =
      s.tasks.set task (.reading active.id s.processes.length (s.site.reader active.file)) := by
    rw [attach_eq]
    rfl
  have hprocesses : (s.attach task active.id active.file pid termination).1.processes =
      s.processes ++ [newProcess active.id pid termination active.stopRequested] := by
    rw [attach_eq, hattach]
    rfl
  refine .attached hslot hnone hrole ?_ (recast_of_set ht htasks rfl) hprocesses (hnew _).run
    (hnew _).hooked ?_
  · rw [(hnew _).pid, attach_eq, hattach]
    rfl
  · rw [attach_eq]
    simp only [List.filter_append]
    split <;> rfl

/-- A task that is dropped while its process is being spawned clears the slot. -/
theorem Consistent.change_abandon (h : Consistent s) {task : TaskId} {run : RunId} {file : Path}
    (ht : s.tasks[task]? = some (.spawning run file)) :
    Change s a ((s.setController (s.controller.abandon run).1).setTask task (.ended .cancelled))
      ((s.controller.abandon run).2.filter Event.isNoted) := by
  have hrole : s.role task = .spawning run file := role_eq_spawning_iff.mpr ht
  obtain ⟨active, hslot, rfl, rfl, hnone⟩ := h.spawning_held hrole
  rw [Controller.abandon_of_spawning hslot hnone]
  exact .abandoned hslot hnone hrole rfl (recast_of_set ht rfl rfl) rfl rfl

/-- A hook that sees the exit of its process finds the run of that process in the slot. -/
theorem Consistent.change_observe (h : Consistent s) {process : ProcessId} {p : Process}
    (hget : s.processes[process]? = some p) (hhooked : p.hooked = true)
    (hexit : p.exit ≠ .pending) :
    Change s a ((s.setController (s.controller.complete p.run).1).modifyProcess process
        fun p => { p with hooked := false })
      ((s.controller.complete p.run).2.filter Event.isNoted) := by
  obtain ⟨active, hslot, hid⟩ := h.hooked_held hget hhooked
  have hprocess := h.held_process hslot hget hid.symm
  rw [← hid, Controller.complete_of_held hslot]
  refine .completed hslot hprocess hget hid.symm hexit rfl rfl rfl ?_
  cases active.failed <;> rfl

/-- In a consistent system every transition is one of the changes. -/
theorem Consistent.change_of_transition (h : Consistent s) {events : List Event}
    (htransition : Transition s a s' events) :
    Change s a s' (events.filter Event.isNoted) := by
  cases htransition with
  | refused => exact change_of_same rfl rfl (.refl _)
  | opened path => exact change_of_same rfl rfl (.refl _)
  | closed => exact change_of_same rfl rfl (.refl _)
  | requested r =>
    refine .quiet rfl (fun t => .inl ?_) (.refl _) rfl
    -- the new task has no role yet
    unfold role
    rw [List.getElem?_append]
    split
    · rfl
    · next hge =>
      rw [List.getElem?_eq_none (Nat.le_of_not_lt hge)]
      cases hnew : [Stage.created r][t - s.tasks.length]? with
      | none => rfl
      | some stage =>
        rw [List.getElem?_singleton] at hnew
        split at hnew <;> cases hnew
        rfl
  | displayed => exact change_of_same rfl rfl (.refl _)
  | stopped =>
    have hsame : s.stop.2.1 = s.controller.stop.2.1 := by rw [stop_eq]
    rw [hsame]
    exact change_stop (.inl rfl) (by simp [stop_eq]) (by funext t; simp [role, stop_eq]) rfl
  | taskDisplayed ht => exact change_quiet ht rfl rfl (.refl _) (.inl rfl)
  | @taskStopped task ht =>
    have hsame : s.stop.2.1 = s.controller.stop.2.1 := by rw [stop_eq]
    rw [hsame]
    refine change_stop (.inr ⟨task, rfl, ht⟩) (by simp [stop_eq]) ?_ rfl
    funext t
    have hr : s.Recast (s.stop.1.setTask task (.ended (.stopped s.stop.2.2))) task .bystander :=
      recast_of_set ht (by rw [setTask_tasks, stop_tasks]) rfl
    rw [hr t]
    split
    · next heq => rw [heq, role_of_task ht]; rfl
    · rfl
  | waited ht => exact change_quiet ht rfl rfl (.refl _) (.inl rfl)
  | woke ht hidle => exact change_quiet ht rfl rfl (.refl _) (.inl rfl)
  | offered ht hr hm => exact change_quiet ht rfl rfl (.refl _) (.inl rfl)
  | answered ht accepted =>
    have hnoted : (if accepted then [Event.reveal] else []).filter Event.isNoted = [] := by
      cases accepted <;> rfl
    rw [hnoted]
    exact change_quiet ht rfl rfl (.refl _) (.inl rfl)
  | rejected ht hr hm hreason => exact change_quiet ht rfl rfl (.refl _) (.inl rfl)
  | @reserved task r file ht hr hm =>
    have hslot := Controller.slot_of_modelToCheck hm
    have hr : s.Recast ((s.setController (s.controller.reserve file).1).setTask task
        (.spawning s.controller.nextRun file)) task (.spawning s.controller.nextRun file) :=
      recast_of_set ht rfl rfl
    rw [Controller.reserve_eq] at hr ⊢
    exact .reserved hslot rfl hr rfl rfl
  | attached ht pid termination => exact h.change_attach ht pid termination
  | spawnFailed ht cause => exact h.change_failCheck_spawning ht _
  | readOn ht hget hfeed hopen =>
    rw [filter_update]
    exact change_quiet ht rfl rfl (.modify (fun p => p.later_read p.readable) _ _) (.inl rfl)
  | readEnd ht hget hfeed hended =>
    rw [List.filter_append, List.filter_append, filter_update, filter_update]
    exact change_quiet ht rfl rfl (.modify (fun p => p.later_read false) _ _) (.inl rfl)
  | readFailed ht hget hfeed =>
    rw [List.filter_append, filter_update, List.nil_append]
    refine h.change_failCheck_attached ?_ ?_ ?_ ht rfl _
    · rfl
    · rfl
    · exact .modify (fun p => p.later_read false) _ _
  | applied ht => exact change_quiet ht rfl rfl (.refl _) (.inr ⟨⟨_, _, rfl⟩, rfl⟩)
  | applyFailed ht cause =>
    exact h.change_failCheck_attached rfl rfl (.refl _) ht rfl _
  | dropped ht hstage =>
    refine change_quiet ht rfl rfl (.refl _) (.inl ?_)
    rcases hstage with rfl | rfl | ⟨r, rfl⟩ <;> rfl
  | abandoned ht => exact h.change_abandon ht
  | readingDropped ht =>
    have hread := Later.modify (fun p : Process => p.later_read false) s.processes
    exact change_quiet ht rfl rfl ((hread _).trans (.modify Process.Later.terminate _ _))
      (.inr ⟨⟨_, _, rfl⟩, rfl⟩)
  | applyingDropped ht =>
    exact change_quiet ht rfl rfl (.modify Process.Later.terminate _ _)
      (.inr ⟨⟨_, _, rfl⟩, rfl⟩)
  | wrote process chunk => exact change_of_same rfl rfl (.modify (Process.Later.write chunk) _ _)
  | outputEnded process =>
    exact change_of_same rfl rfl (.modify Process.later_endOutput _ _)
  | exited process exit => exact change_of_same rfl rfl (.modify (Process.Later.report exit) _ _)
  | observed hget hhooked hexit => exact h.change_observe hget hhooked hexit

/-- Every step from a consistent system is one of the changes. -/
theorem Consistent.change_step (h : Consistent s) (a : Action) :
    Change s a (s.step a).1 ((s.step a).2.filter Event.isNoted) :=
  h.change_of_transition (transition_step s a)

/-- The step that attaches a process to the run it was spawned for. -/
theorem Consistent.step_spawned (h : Consistent s) {task : TaskId} {run : RunId}
    {file : Path} (ht : s.tasks[task]? = some (.spawning run file)) (pid : Option Nat)
    (termination : Termination) :
    ∃ active, s.controller.slot = some active ∧ active.id = run ∧ active.process = none ∧
      (s.step (.spawned task (.process pid termination))).1.processes =
        s.processes ++ [newProcess run pid termination active.stopRequested] ∧
      (s.step (.spawned task (.process pid termination))).2 =
        (if active.stopRequested then [.terminate s.processes.length] else []) ++
          [.revealEmpty run] := by
  obtain ⟨active, hslot, rfl, rfl, hnone⟩ := h.spawning_held (role_eq_spawning_iff.mpr ht)
  have hattach := Controller.attach_of_held hslot active.file s.processes.length pid
  refine ⟨active, hslot, rfl, hnone, ?_, ?_⟩
  · simp only [System.step, ht, spawned, attach_eq, hattach]
    rfl
  · simp only [System.step, ht, spawned, attach_eq, hattach]

/-- A system in which nothing has happened is consistent. -/
theorem consistent_start (site : Site) : Consistent (start site) := by
  have hrole : ∀ t, (start site).role t = .bystander := fun _ => rfl
  have howned : Owned (start site) := by
    refine ⟨fun ht => ?_, fun hget => ?_, fun hget => ?_, fun hget => ?_, fun ht => ?_⟩
    · rw [hrole] at ht; cases ht
    · cases hget
    · cases hget
    · cases hget
    · rw [hrole] at ht; cases ht
  exact howned.consistent_of_empty rfl (fun t run file => by rw [hrole]; simp)
    (fun process p hget => by cases hget)

/-- Every step leaves a consistent system. -/
theorem Consistent.step (h : Consistent s) (a : Action) : Consistent (s.step a).1 :=
  consistent_of_change h (h.change_step a)

/-- Every history leaves a consistent system. -/
theorem consistent_after (site : Site) (actions : List Action) : Consistent (after site actions) :=
  after_induction (P := fun _ s _ => Consistent s) (consistent_start site)
    (fun _ a h => h.step a) actions

/-- Every step of a history is one of the changes. -/
theorem change_after (site : Site) (actions : List Action) (a : Action) :
    Change (after site actions) a (after site (actions ++ [a]))
      (((after site actions).step a).2.filter Event.isNoted) := by
  rw [after_concat]
  exact (consistent_after site actions).change_step a

end System

end ModelCheck
