import ModelCheck.Proofs.Controller
import ModelCheck.Proofs.System.Role

/-!
# What causes an event

Each event of a step has one of a few causes, listed in `Cause` for the events that concern a run in
progress: its process is terminated, its display is opened or updated, its diagnostics are applied,
or an error is told. Later proofs ask for the cause of an event and do not look at the step again.
-/

namespace ModelCheck

/-- Whether an event concerns a run that has been admitted and asked for its process. -/
def Event.isOfRun : Event → Bool
  | .terminate _ => true
  | .revealEmpty _ => true
  | .update _ _ => true
  | .apply _ _ => true
  | .error _ => true
  | _ => false

namespace System

variable {s : System} {a : Action} {e : Event}

/-- Whether an action is a request to stop, by itself or in a task. -/
def IsStop (s : System) (a : Action) : Prop :=
  a = .stop ∨ ∃ task, a = .begin task ∧ s.tasks[task]? = some (.created (.command .stop))

/-- An action by which a run fails: its process cannot be spawned, its output cannot be read, or its
diagnostics cannot be applied. -/
inductive Fails (s : System) : Action → RunId → Prop
  | spawn {task : TaskId} {run : RunId} {file : Path}
      (h : s.tasks[task]? = some (.spawning run file)) (cause : Failure) :
      Fails s (.spawned task (.failure cause)) run
  | stream {task : TaskId} {run : RunId} {process : ProcessId} {reader reader' : Output.Reader}
      {p : Process} {now : Moment} {delivered : List Snapshot} {cause : String}
      (h : s.tasks[task]? = some (.reading run process reader))
      (hp : s.processes[process]? = some p)
      (hfeed : feedChunks now p.arrived reader = (reader', delivered, some cause)) :
      Fails s (.read task now) run
  | diagnostics {task : TaskId} {run : RunId} {process : ProcessId} {total : Nat}
      (h : s.tasks[task]? = some (.applying run process total)) (cause : Failure) :
      Fails s (.applied task (some cause)) run

/-- A failing run leaves the slot as the controller's operation does. -/
theorem Fails.controller {run : RunId} (h : Fails s a run) :
    (s.step a).1.controller = (s.controller.fail run).1 := by
  cases h with
  | spawn h cause =>
    simp only [step, h]
    exact failCheck_controller ..
  | stream h hp hfeed =>
    simp only [step, h, read, hp, hfeed]
    exact failCheck_controller ..
  | diagnostics h cause =>
    simp only [step, h]
    exact failCheck_controller ..

/-- The causes of events. -/
inductive Cause (s : System) : Action → Event → Prop
  /-- The event does not concern a run in progress. -/
  | other {a : Action} {e : Event} (h : e.isOfRun = false) : Cause s a e
  /-- The process of the run in the slot is stopped. -/
  | stop {a : Action} {active : ActiveRun} {process : ProcessId} (ha : s.IsStop a)
      (hslot : s.controller.slot = some active) (hprocess : active.process = some process) :
      Cause s a (.terminate process)
  /-- A process is stopped as soon as it is attached, by a stop that was kept for it. -/
  | deferredStop {task : TaskId} {active : ActiveRun} {file : Path} {pid : Option Nat}
      {termination : Termination} (h : s.tasks[task]? = some (.spawning active.id file))
      (hslot : s.controller.slot = some active) (hrequested : active.stopRequested = true) :
      Cause s (.spawned task (.process pid termination)) (.terminate s.processes.length)
  /-- The run in the slot fails and leaves its process running. -/
  | failure {a : Action} {active : ActiveRun} {process : ProcessId} (hfails : Fails s a active.id)
      (hslot : s.controller.slot = some active) (hprocess : active.process = some process) :
      Cause s a (.terminate process)
  /-- A task that is attached to a process is dropped. -/
  | drop {task : TaskId} {run : RunId} {process : ProcessId}
      (h : s.role task = .attached run process) : Cause s (.abort task) (.terminate process)
  /-- A process is attached. -/
  | attached {task : TaskId} {run : RunId} {file : Path} {pid : Option Nat}
      {termination : Termination} (h : s.tasks[task]? = some (.spawning run file)) :
      Cause s (.spawned task (.process pid termination)) (.revealEmpty run)
  /-- A task has read a snapshot from what has arrived. -/
  | delivered {task : TaskId} {run : RunId} {process : ProcessId} {reader : Output.Reader}
      {p : Process} {now : Moment} {snapshot : Snapshot}
      (h : s.tasks[task]? = some (.reading run process reader))
      (hp : s.processes[process]? = some p)
      (hmem : snapshot ∈ (feedChunks now p.arrived reader).2.1) :
      Cause s (.read task now) (.update run snapshot)
  /-- A task has read the output to its end, with a last snapshot. -/
  | last {task : TaskId} {run : RunId} {process : ProcessId} {reader : Output.Reader}
      {p : Process} {now : Moment} {snapshot : Snapshot}
      (h : s.tasks[task]? = some (.reading run process reader))
      (hp : s.processes[process]? = some p)
      (hfeed : (feedChunks now p.arrived reader).2.2 = none) (hended : p.writable = false)
      (hmem : snapshot ∈ ((feedChunks now p.arrived reader).1.finish now).2) :
      Cause s (.read task now) (.update run snapshot)
  /-- A task has read the output to its end, and hands the diagnostics on. -/
  | applied {task : TaskId} {run : RunId} {process : ProcessId} {reader : Output.Reader}
      {p : Process} {now : Moment}
      (h : s.tasks[task]? = some (.reading run process reader))
      (hp : s.processes[process]? = some p)
      (hfeed : (feedChunks now p.arrived reader).2.2 = none) (hended : p.writable = false) :
      Cause s (.read task now)
        (.apply run ((feedChunks now p.arrived reader).1.finish now).1.diagnostics)
  /-- A run fails. -/
  | error {a : Action} {run : RunId} (hfails : Fails s a run) (text : String) :
      Cause s a (.error text)

/-- The only process that a stop terminates is that of the run in the slot. -/
theorem cause_of_mem_stop (ha : s.IsStop a) (h : e ∈ s.stop.2.1) : Cause s a e := by
  rw [stop_eq] at h
  cases hslot : s.controller.slot with
  | none =>
    rw [Controller.stop_of_empty hslot, List.mem_singleton] at h
    subst h
    exact .other rfl
  | some active =>
    cases hprocess : active.process with
    | none =>
      rw [Controller.stop_of_spawning hslot hprocess] at h
      cases h
    | some process =>
      rw [Controller.stop_of_process hslot hprocess, List.mem_singleton] at h
      subst h
      exact .stop ha hslot hprocess

/-- A check that fails tells its error, and terminates the process of its run if that is in the slot. -/
theorem cause_of_mem_failCheck {s₀ : System} {task : TaskId} {run : RunId} {error : CheckError}
    (hc : s₀.controller = s.controller) (hfails : Fails s a run)
    (h : e ∈ (s₀.failCheck task run error).2) : Cause s a e := by
  rw [failCheck_eq, hc, List.mem_append, List.mem_append] at h
  rcases h with (h | h) | h
  · rcases s.controller.fail_events run with hevents | hevents <;> rw [hevents] at h
    · cases h
    · rw [List.mem_singleton] at h
      subst h
      exact .other rfl
  · obtain ⟨process, hprocess, rfl⟩ := List.mem_map.mp h
    obtain ⟨active, hslot, rfl, hactive⟩ :=
      Controller.held_of_fail (Option.mem_toList.mp hprocess)
    exact .failure hfails hslot hactive
  · rw [List.mem_singleton] at h
    subst h
    exact .error hfails _

/-- Attaching a process opens the display, and terminates the process only for a stop that was kept. -/
theorem cause_of_mem_attach {task : TaskId} {run : RunId} {file : Path} {pid : Option Nat}
    {termination : Termination} (ht : s.tasks[task]? = some (.spawning run file))
    (h : e ∈ (s.attach task run file pid termination).2) :
    Cause s (.spawned task (.process pid termination)) e := by
  rw [attach_eq, List.mem_append] at h
  rcases h with h | h
  · split at h
    · next hrequested =>
      rw [List.mem_singleton] at h
      subst h
      cases hslot : s.controller.slot with
      | none => simp [Controller.attach, hslot] at hrequested
      | some active =>
        by_cases hid : active.id = run
        · subst hid
          rw [Controller.attach_of_held hslot] at hrequested
          exact .deferredStop ht hslot hrequested
        · simp [Controller.attach, hslot, hid] at hrequested
    · cases h
  · rw [List.mem_singleton] at h
    subst h
    exact .attached ht

/-- Every event of a transition has a cause, found case by case. -/
theorem Transition.cause {s' : System} {events : List Event}
    (htransition : Transition s a s' events) (h : e ∈ events) : Cause s a e := by
  -- the events that need no look at the system
  have hother : ∀ {events : List Event}, events.all (fun e => !e.isOfRun) = true → e ∈ events →
      Cause s a e := by
    intro events hall hmem
    have he := List.all_eq_true.mp hall e hmem
    exact .other (by simpa using he)
  cases htransition with
  | stopped => exact cause_of_mem_stop (.inl rfl) h
  | @taskStopped task ht => exact cause_of_mem_stop (.inr ⟨task, rfl, ht⟩) h
  | attached ht pid termination => exact cause_of_mem_attach ht h
  | spawnFailed ht cause => exact cause_of_mem_failCheck rfl (.spawn ht cause) h
  | @readOn task run process reader reader' p now delivered ht hget hfeed hopen =>
    obtain ⟨snapshot, hmem, rfl⟩ := List.mem_map.mp h
    exact .delivered ht hget (by rwa [hfeed])
  | @readEnd task run process reader reader' p now delivered ht hget hfeed hended =>
    have hnone : (feedChunks now p.arrived reader).2.2 = none := by rw [hfeed]
    have hreader : (feedChunks now p.arrived reader).1 = reader' := by rw [hfeed]
    rw [List.mem_append, List.mem_append] at h
    rcases h with (h | h) | h
    · obtain ⟨snapshot, hmem, rfl⟩ := List.mem_map.mp h
      exact .delivered ht hget (by rwa [hfeed])
    · obtain ⟨snapshot, hmem, rfl⟩ := List.mem_map.mp h
      exact .last ht hget hnone hended (by rwa [hreader])
    · rw [List.mem_singleton] at h
      subst h
      rw [← hreader]
      exact .applied ht hget hnone hended
  | readFailed ht hget hfeed =>
    rw [List.mem_append] at h
    rcases h with h | h
    · obtain ⟨snapshot, hmem, rfl⟩ := List.mem_map.mp h
      exact .delivered ht hget (by rwa [hfeed])
    · refine cause_of_mem_failCheck ?_ (.stream ht hget hfeed) h
      rfl
  | applyFailed ht cause => exact cause_of_mem_failCheck rfl (.diagnostics ht cause) h
  | readingDropped ht =>
    rw [List.mem_singleton] at h
    subst h
    exact .drop (role_of_task ht)
  | applyingDropped ht =>
    rw [List.mem_singleton] at h
    subst h
    exact .drop (role_of_task ht)
  | answered ht accepted =>
    refine hother ?_ h
    cases accepted <;> rfl
  | @abandoned task run file ht =>
    refine hother ?_ h
    rcases s.controller.abandon_events run with hevents | hevents <;> rw [hevents] <;> rfl
  | @observed process p hget hhooked hexit =>
    refine hother ?_ h
    rcases s.controller.complete_events p.run with hevents | hevents <;> rw [hevents] <;> rfl
  | _ => exact hother rfl h

/-- Every event of a step has a cause. -/
theorem cause_of_mem (h : e ∈ (s.step a).2) : Cause s a e := (transition_step s a).cause h

end System

end ModelCheck
