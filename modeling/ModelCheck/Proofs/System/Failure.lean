import ModelCheck.Proofs.System.Pipeline
import ModelCheck.Proofs.System.Stopping

/-!
# How a check ends

A check that fails tells the user once, and one that completes or is dropped tells nothing. In every
history a run that ends without its process having exited is not left alone: if it has no process it
leaves the slot at once, and otherwise its process is told to terminate, and the run stays in the
slot until the hook of the process has seen the exit.
-/

namespace ModelCheck

/-- Whether an event is a message to the user. -/
def Event.isMessage : Event → Bool
  | .info _ => true
  | .warn _ => true
  | .error _ => true
  | .offer _ _ => true
  | _ => false

/-- What a check that was admitted has told the user when its task is at a stage. -/
def Stage.messages : Stage → List Event
  | .ended (.checked (.failed message)) => [.error message]
  | _ => []

/-- While a task has a part in a run it has told nothing. -/
theorem Stage.messages_of_role {stage : Stage} (h : stage.role ≠ .bystander) :
    stage.messages = [] := by
  cases stage <;> first | rfl | exact absurd rfl h

namespace System

variable {site : Site} {s : System} {actions : List Action} {a : Action} {task : TaskId}
  {run : RunId} {file : Path} {stage : Stage} {process : ProcessId} {p : Process}

/-! ### Messages -/

/-- What a task has told the user. -/
def messages (site : Site) (actions : List Action) (task : TaskId) : List Event :=
  (trace site actions task).filter Event.isMessage

/-- Updates of the display tell the user nothing. -/
theorem filter_isMessage_update (run : RunId) (delivered : List Snapshot) :
    (delivered.map (Event.update run)).filter Event.isMessage = [] :=
  filter_updates rfl delivered

/-- A check that fails tells its error. -/
theorem failCheck_messages (task : TaskId) (run : RunId) (e : CheckError) (s : System) :
    (s.failCheck task run e).2.filter Event.isMessage = [.error e.message] := by
  rw [failCheck_eq]
  rcases s.controller.fail_events run with hevents | hevents <;>
    cases (s.controller.fail run).2.2 <;> rw [hevents] <;> rfl

/-- A task that is dropped tells nothing. -/
theorem abort_messages (task : TaskId) (s : System) :
    (s.step (.abort task)).2.filter Event.isMessage = [] := by
  rcases abort_events task s with hevents | hevents | ⟨process, hevents⟩ <;> rw [hevents] <;> rfl

/-- A step of a task that has a part in a run ends the task, leaves it its part, or attaches it to
the new process. It tells an error if the task ends with that, and nothing otherwise. -/
theorem advance (ht : s.tasks[task]? = some stage) (hrole : stage.role ≠ .bystander)
    (hawaits : Awaits task stage a) :
    ∃ next, (s.step a).1.tasks[task]? = some next ∧
      (s.step a).2.filter Event.isMessage = next.messages ∧
      ((∃ result, next = .ended result) ∨ next.role = stage.role ∨
        ∃ run file, stage.role = .spawning run file ∧
          next.role = .attached run s.processes.length) := by
  cases hawaits with
  | begin r => exact absurd rfl hrole
  | answer accepted => exact absurd rfl hrole
  | wake => exact absurd rfl hrole
  | spawned run file result =>
    simp only [step, ht]
    cases result with
    | process pid termination =>
      rw [spawned, attach_eq]
      refine ⟨.reading run s.processes.length (s.site.reader file), task_setTask (by exact ht) _, ?_,
        .inr (.inr ⟨run, file, rfl, rfl⟩)⟩
      dsimp only
      split <;> rfl
    | failure cause =>
      exact ⟨.ended (.checked (.failed (CheckError.spawn checkerTool cause).message)),
        failCheck_ended (by exact ht) .., failCheck_messages .., .inl ⟨_, rfl⟩⟩
  | read run process reader now =>
    cases hget : s.processes[process]? with
    | none =>
      refine ⟨.reading run process reader, ?_, ?_, .inr (.inl rfl)⟩
      · simp only [step, ht, read, hget]
      · simp only [step, ht, read, hget]
        rfl
    | some p =>
      rcases hfeed : feedChunks now p.arrived reader with ⟨reader', others, failure⟩
      cases failure with
      | some cause =>
        rw [step_read_of_failure ht hget hfeed, List.filter_append, filter_isMessage_update]
        exact ⟨.ended (.checked (.failed (readFailure cause).message)),
          failCheck_ended (by exact ht) .., failCheck_messages .., .inl ⟨_, rfl⟩⟩
      | none =>
        cases hopen : p.writable with
        | true =>
          rw [step_read_of_open ht hget hfeed hopen]
          exact ⟨.reading run process reader', task_setTask (by exact ht) _, filter_isMessage_update ..,
            .inr (.inl rfl)⟩
        | false =>
          rw [step_read_of_ended ht hget hfeed hopen, List.filter_append, List.filter_append,
            filter_isMessage_update, filter_isMessage_update]
          exact ⟨.applying run process _, task_setTask (by exact ht) _, rfl, .inr (.inl rfl)⟩
  | applied run process total failure =>
    simp only [step, ht]
    cases failure with
    | none => exact ⟨.ended (.checked (.completed total)), task_setTask (by exact ht) _, rfl, .inl ⟨_, rfl⟩⟩
    | some cause =>
      exact ⟨.ended (.checked (.failed (CheckError.diagnostics cause).message)),
        failCheck_ended (by exact ht) .., failCheck_messages .., .inl ⟨_, rfl⟩⟩
  | abort hstage =>
    exact ⟨.ended .cancelled, abort_tasks ht hstage, abort_messages task s, .inl ⟨_, rfl⟩⟩

/-- A check that was admitted has told the error that it ended with, or nothing. -/
theorem Admitted.messages (h : Admitted site actions task run file)
    (ht : (after site actions).tasks[task]? = some stage) :
    System.messages site actions task = stage.messages := by
  have hthere := Admitted.induction
    (P := fun actions stage => System.messages site actions task = stage.messages ∧
      ((∃ result, stage = .ended result) ∨ stage.role ≠ .bystander))
    (fun hadmits => ?begin) (fun _ ha h => ?other) (fun hstep _ h => ?refused)
    (fun ht hawaits h => ?own) h
  case begin =>
    refine ⟨?_, .inr nofun⟩
    rw [System.messages, hadmits.requested.trace, hadmits.step]
    rfl
  case other => rwa [System.messages, trace_concat_of_ne _ ha]
  case refused => rwa [System.messages, trace_concat_of_silent _ (by rw [hstep])]
  case own =>
    rcases h with ⟨hmessages, ⟨result, rfl⟩ | hrole⟩
    · cases hawaits with
      | abort hne => exact absurd rfl (hne result)
    · rw [Stage.messages_of_role hrole] at hmessages
      obtain ⟨next, hnext, hown, hkind⟩ := advance ht hrole hawaits
      refine ⟨next, hnext, ?_, hkind.imp_right ?_⟩
      · rw [System.messages, trace_concat_of_task _ hawaits.task_eq, List.filter_append,
          ← System.messages, hmessages, hown, List.nil_append]
      · rintro (hsame | ⟨r, f, _, hattached⟩)
        · rwa [hsame]
        · rw [hattached]
          exact nofun
  obtain ⟨now, hnow, hmessages, _⟩ := hthere
  rw [ht] at hnow
  cases hnow
  exact hmessages

/-- A request that was turned down has been told of once. -/
theorem TurnedDown.messages {reason : Rejection} (h : TurnedDown site actions task reason) :
    System.messages site actions task = [reason.notice] := by
  obtain ⟨stage, _, hrefused⟩ := h.refused
  rw [System.messages]
  generalize trace site actions task = events at hrefused
  cases hrefused with
  | offering hreason => subst hreason; rfl
  | ended => cases reason <;> rfl
  | accepted hreason => subst hreason; rfl
  | dropped hreason => subst hreason; rfl

/-- A check ends with a rejection only if its request was turned down for that reason. -/
theorem turnedDown_of_rejected {reason : Rejection}
    (ht : (after site actions).tasks[task]? = some (.ended (.checked (.rejected reason)))) :
    TurnedDown site actions task reason := by
  rcases admitted_or_turnedDown actions ht rfl with ⟨run, file, hadmitted⟩ | ⟨other, hdown⟩
  · obtain ⟨stage, hstage, hcourse⟩ := hadmitted.course
    rw [ht] at hstage
    cases hstage
    generalize pipeline site actions task = events at hcourse
    cases hcourse
  · obtain ⟨stage, hstage, hrefused⟩ := hdown.refused
    rw [ht] at hstage
    cases hstage
    generalize trace site actions task = events at hrefused
    cases hrefused <;> exact hdown

/-- Only a check that was admitted completes or fails. -/
theorem admitted_of_ended {outcome : CheckOutcome}
    (ht : (after site actions).tasks[task]? = some (.ended (.checked outcome)))
    (hne : ∀ reason, outcome ≠ .rejected reason) :
    ∃ run file, Admitted site actions task run file := by
  rcases admitted_or_turnedDown actions ht rfl with hadmitted | ⟨reason, hdown⟩
  · exact hadmitted
  · obtain ⟨stage, hstage, hrefused⟩ := hdown.refused
    rw [ht] at hstage
    cases hstage
    generalize trace site actions task = events at hrefused
    cases hrefused <;> exact absurd rfl (hne _)

/-! ### Processes that are left -/

/-- The processes whose termination is requested in events. -/
def terminations (events : List Event) : List ProcessId :=
  events.filterMap fun
    | .terminate process => some process
    | _ => none

/-- Processes are terminated in the order of the events. -/
theorem terminations_append (events more : List Event) :
    terminations (events ++ more) = terminations events ++ terminations more :=
  List.filterMap_append

/-- Updates of the display terminate no process. -/
theorem terminations_update (run : RunId) (delivered : List Snapshot) :
    terminations (delivered.map (Event.update run)) = [] := by
  rw [terminations, List.filterMap_eq_nil_iff]
  intro e he
  obtain ⟨snapshot, _, rfl⟩ := List.mem_map.mp he
  rfl

/-- A check that fails terminates the process that is left. -/
theorem failCheck_terminations (task : TaskId) (run : RunId) (e : CheckError) (s : System) :
    terminations (s.failCheck task run e).2 = (s.controller.fail run).2.2.toList := by
  rw [failCheck_eq]
  rcases s.controller.fail_events run with hevents | hevents <;>
    cases (s.controller.fail run).2.2 <;> rw [hevents] <;> rfl

/-- A run fails as its check does, after what its task has read before; whether its process does as
it is told does not change. -/
theorem Fails.step (h : Fails s a run) :
    ∃ (s₀ : System) (task : TaskId) (e : CheckError) (delivered : List Snapshot),
      a.task? = some task ∧ (s.role task).run? = some run ∧
      s₀.controller = s.controller ∧ s₀.tasks = s.tasks ∧
      (∀ {process : ProcessId} {p : Process}, s.processes[process]? = some p →
        ∃ q, s₀.processes[process]? = some q ∧ q.termination = p.termination) ∧
      s.step a = ((s₀.failCheck task run e).1,
        delivered.map (Event.update run) ++ (s₀.failCheck task run e).2) := by
  cases h with
  | @spawn task _ _ ht cause =>
    refine ⟨s, task, .spawn checkerTool cause, [], rfl, ?_, rfl, rfl, fun hp => ⟨_, hp, rfl⟩, ?_⟩
    · rw [role_of_task ht]
      rfl
    · simp only [System.step, ht]
      rfl
  | @stream task _ process _ _ p _ delivered cause ht hget hfeed =>
    refine ⟨s.modifyProcess process fun p => { p with arrived := [], readable := false }, task,
      readFailure cause, delivered, rfl, ?_, rfl, rfl, fun {i q} hq => ?_,
      step_read_of_failure ht hget hfeed⟩
    · rw [role_of_task ht]
      rfl
    · rw [modifyProcess_processes, List.getElem?_modify, hq]
      exact ⟨_, rfl, by split <;> rfl⟩
  | @diagnostics task _ _ _ ht cause =>
    refine ⟨s, task, .diagnostics cause, [], rfl, ?_, rfl, rfl, fun hp => ⟨_, hp, rfl⟩, ?_⟩
    · rw [role_of_task ht]
      rfl
    · simp only [System.step, ht]
      rfl

/-- A run that fails terminates just the process that it leaves in the slot. -/
theorem Fails.terminations (h : Fails s a run) :
    System.terminations (s.step a).2 = (s.controller.fail run).2.2.toList := by
  obtain ⟨s₀, task, e, delivered, _, _, hc, _, _, hstep⟩ := h.step
  rw [hstep, terminations_append, terminations_update, failCheck_terminations, hc,
    List.nil_append]

/-- The task of a run that fails ends with an error. -/
theorem Fails.ended (h : Fails s a run) :
    ∃ task message, a.task? = some task ∧ (s.role task).run? = some run ∧
      (s.step a).1.tasks[task]? = some (.ended (.checked (.failed message))) := by
  obtain ⟨s₀, task, e, delivered, ha, hrole, _, htasks, _, hstep⟩ := h.step
  refine ⟨task, e.message, ha, hrole, ?_⟩
  cases ht : s.tasks[task]? with
  | none => rw [role, ht] at hrole; cases hrole
  | some stage =>
    rw [hstep]
    rw [← htasks] at ht
    exact failCheck_ended ht ..

/-- A process that does as it is told has exited once it has been told to terminate. -/
theorem terminate_exit (h : p.termination = .kill) : p.terminate.exit ≠ .pending := by
  rw [Process.terminate, h]
  dsimp only
  unfold Process.report
  split
  · exact nofun
  · next hexit => rw [hexit]; exact nofun

/-- If the process of a run that fails does as it is told, it has exited. -/
theorem Fails.killed (h : Fails s a run) (hleft : (s.controller.fail run).2.2 = some process)
    (hget : s.processes[process]? = some p) (hkill : p.termination = .kill) :
    ∃ q, (s.step a).1.processes[process]? = some q ∧ q.exit ≠ .pending := by
  obtain ⟨s₀, task, e, delivered, _, _, hc, _, hprocesses, hstep⟩ := h.step
  obtain ⟨q, hq, hqkill⟩ := hprocesses hget
  refine ⟨q.terminate, ?_, terminate_exit (hqkill.trans hkill)⟩
  rw [hstep, failCheck_eq, hc, hleft]
  simp [terminateAll, hq]

/-- A run is in the slot just as long as the hook of its process waits. -/
theorem Consistent.held_iff_hooked (h : Consistent s) (hget : s.processes[process]? = some p) :
    (∃ active, s.controller.slot = some active ∧ active.id = p.run) ↔ p.hooked = true := by
  constructor
  · rintro ⟨active, hslot, hid⟩
    obtain ⟨q, hq, _, hhooked⟩ := h.held_hooked hslot (h.held_process hslot hget hid.symm)
    rw [hget] at hq
    cases hq
    exact hhooked
  · exact h.hooked_held hget

/-- A run is released by its process: it is in the slot as long as the hook of the process waits,
and the hook empties the slot when it sees the exit. -/
structure ReleasedBy (site : Site) (actions : List Action) (run : RunId) (process : ProcessId) :
    Prop where
  held : ∃ p : Process, (after site actions).processes[process]? = some p ∧ p.run = run ∧
    ((∃ active, (after site actions).controller.slot = some active ∧ active.id = run) ↔
      p.hooked = true)
  freed : ∀ p : Process, (after site actions).processes[process]? = some p → p.hooked = true →
    p.exit ≠ .pending →
    (after site (actions ++ [.observeExit process])).controller.slot = none ∧
      (after site (actions ++ [.observeExit process])).controller.state = .idle

/-- A process stays where it is, with its run, and a hook that has let go does not come back. -/
theorem process_after {before : List Action} (hget : (after site before).processes[process]? = some p)
    (rest : List Action) :
    ∃ q, (after site (before ++ rest)).processes[process]? = some q ∧ q.run = p.run ∧
      (p.hooked = false → q.hooked = false) := by
  induction rest using List.reverseRecOn with
  | nil => rw [List.append_nil]; exact ⟨p, hget, rfl, id⟩
  | append_singleton rest a ih =>
    obtain ⟨q, hq, hrun, hkept⟩ := ih
    obtain ⟨q', hq', hrun', hkept'⟩ := (change_after site (before ++ rest) a).process_hook hq
    rw [← List.append_assoc]
    exact ⟨q', hq', hrun'.trans hrun, hkept' ∘ hkept⟩

/-- Every run that has a process is released by it. -/
theorem releasedBy_after {before : List Action}
    (hget : (after site before).processes[process]? = some p) (rest : List Action) :
    ReleasedBy site (before ++ rest) p.run process := by
  have h := consistent_after site (before ++ rest)
  obtain ⟨q, hq, hrun, _⟩ := process_after hget rest
  refine ⟨⟨q, hq, hrun, hrun ▸ h.held_iff_hooked hq⟩, ?_⟩
  intro q' hq' hhooked hexit
  rw [hq] at hq'
  cases hq'
  obtain ⟨active, hslot, hid⟩ := h.hooked_held hq hhooked
  rw [after_concat]
  simp [System.step, observeExit, hq, hhooked, hexit, ← hid, Controller.complete_of_held hslot]

/-- A run that fails without a process leaves the slot. -/
theorem Consistent.fail_of_no_process (h : Consistent s) (hfails : Fails s a run)
    (hnone : ¬ HasProcess s run) :
    (s.step a).1.controller =
      { s.controller with slot := none, state := .idle, indicator := .hidden } := by
  rw [hfails.controller]
  cases hfails with
  | spawn ht cause =>
    obtain ⟨active, hslot, rfl, _, hprocess⟩ := h.spawning_held (role_eq_spawning_iff.mpr ht)
    rw [Controller.fail_of_spawning hslot hprocess]
  | stream ht hget hfeed => exact absurd (h.hasProcess (role_of_task ht)) hnone
  | diagnostics ht cause => exact absurd (h.hasProcess (role_of_task ht)) hnone

/-- A task that is dropped while its process is being spawned empties the slot. -/
theorem Consistent.abort_of_spawning (h : Consistent s)
    (ht : s.tasks[task]? = some (.spawning run file)) :
    (s.step (.abort task)).1.controller =
      { s.controller with slot := none, state := .idle, indicator := .idle } := by
  obtain ⟨active, hslot, rfl, rfl, hnone⟩ := h.spawning_held (role_eq_spawning_iff.mpr ht)
  simp only [System.step, abort, ht, Controller.abandon_of_spawning hslot hnone,
    setTask_controller, setController_controller]

/-- A task that is dropped while it is attached to a process terminates that process, and leaves the
controller alone. -/
theorem abort_of_attached (ht : s.role task = .attached run process) :
    (s.step (.abort task)).1.controller = s.controller ∧
      (s.step (.abort task)).2 = [.terminate process] ∧
      ∀ p : Process, s.processes[process]? = some p → p.termination = .kill →
        ∃ q, (s.step (.abort task)).1.processes[process]? = some q ∧ q.exit ≠ .pending := by
  cases hstage : s.tasks[task]? with
  | none => rw [role, hstage] at ht; cases ht
  | some stage =>
    rw [role_of_task hstage] at ht
    cases stage with
    | reading run' process' reader =>
      cases ht
      simp only [System.step, abort, hstage]
      refine ⟨rfl, rfl, fun p hp hkill => ?_⟩
      refine ⟨Process.terminate { p with arrived := [], readable := false }, ?_, terminate_exit hkill⟩
      simp [terminate, hp]
    | applying run' process' total =>
      cases ht
      simp only [System.step, abort, hstage]
      refine ⟨rfl, rfl, fun p hp hkill => ⟨p.terminate, ?_, terminate_exit hkill⟩⟩
      simp [terminate, hp]
    | _ => cases ht

/-! ### The contract -/

/-- What the checks of a history tell, and what is left of a run that fails or is dropped. -/
structure Surfaces (site : Site) (actions : List Action) : Prop where
  completed : ∀ task n,
    (after site actions).tasks[task]? = some (.ended (.checked (.completed n))) →
    messages site actions task = []
  dropped : ∀ task run file, Admitted site actions task run file →
    (after site actions).tasks[task]? = some (.ended .cancelled) → messages site actions task = []
  failed : ∀ task message,
    (after site actions).tasks[task]? = some (.ended (.checked (.failed message))) →
    messages site actions task = [.error message]
  rejected : ∀ task reason,
    (after site actions).tasks[task]? = some (.ended (.checked (.rejected reason))) →
    messages site actions task = [reason.notice]
  /-- The task of a run that fails ends with an error in that step. -/
  fails : ∀ a run, Fails (after site actions) a run → ∃ task message, a.task? = some task ∧
    ((after site actions).role task).run? = some run ∧
    (after site (actions ++ [a])).tasks[task]? = some (.ended (.checked (.failed message)))
  /-- Without a process the run leaves the slot. -/
  unattached : ∀ a run, Fails (after site actions) a run → ¬ HasProcess (after site actions) run →
    (after site (actions ++ [a])).controller.slot = none ∧
      (after site (actions ++ [a])).controller.state = .idle
  /-- In the slot with its process, the run is marked and the process is terminated; from then on
  the run is released by that process, which has exited already if it does as it is told. -/
  attached : ∀ a active process, Fails (after site actions) a active.id →
    (after site actions).controller.slot = some active → active.process = some process →
    (after site (actions ++ [a])).controller.slot = some { active with failed := true } ∧
      terminations ((after site actions).step a).2 = [process] ∧
      (∀ rest, ReleasedBy site (actions ++ a :: rest) active.id process) ∧
      ∀ p : Process, (after site actions).processes[process]? = some p → p.termination = .kill →
        ∃ q : Process, (after site (actions ++ [a])).processes[process]? = some q ∧
          q.exit ≠ .pending
  /-- Once the exit of its process has been seen, the run leaves the slot alone. -/
  observed : ∀ (a : Action) (process : ProcessId) (p : Process),
    Fails (after site actions) a p.run →
    (after site actions).processes[process]? = some p → p.hooked = false →
    (after site (actions ++ [a])).controller.slot = (after site actions).controller.slot ∧
      (after site (actions ++ [a])).controller.state = (after site actions).controller.state ∧
      terminations ((after site actions).step a).2 = []
  indicator : ∀ a run, Fails (after site actions) a run →
    (∀ active, (after site (actions ++ [a])).controller.slot = some active → active.id = run) →
    (after site (actions ++ [a])).controller.indicator = .hidden
  /-- A task that is dropped without a process empties the slot. -/
  abandoned : ∀ task run file, (after site actions).tasks[task]? = some (.spawning run file) →
    (after site (actions ++ [.abort task])).controller.slot = none ∧
      (after site (actions ++ [.abort task])).controller.state = .idle ∧
      (after site (actions ++ [.abort task])).controller.indicator = .idle
  /-- A task that is dropped with a process terminates it, and leaves the run to it. -/
  left : ∀ task run process, (after site actions).role task = .attached run process →
    (after site (actions ++ [.abort task])).controller = (after site actions).controller ∧
      terminations ((after site actions).step (.abort task)).2 = [process] ∧
      (∀ rest, ReleasedBy site (actions ++ .abort task :: rest) run process) ∧
      ∀ p : Process, (after site actions).processes[process]? = some p → p.termination = .kill →
        ∃ q : Process, (after site (actions ++ [.abort task])).processes[process]? = some q ∧
          q.exit ≠ .pending

/-- In every history each failure surfaces once, and leaves no run behind. -/
theorem failures_surface (site : Site) (actions : List Action) : Surfaces site actions := by
  have h := consistent_after site actions
  refine ⟨?completed, ?dropped, ?failed, ?rejected, ?fails, ?unattached, ?attached, ?observed,
    ?indicator, ?abandoned, ?left⟩
  case completed =>
    intro task n ht
    obtain ⟨run, file, hadmitted⟩ := admitted_of_ended ht nofun
    exact hadmitted.messages ht
  case dropped =>
    intro task run file hadmitted ht
    exact hadmitted.messages ht
  case failed =>
    intro task message ht
    obtain ⟨run, file, hadmitted⟩ := admitted_of_ended ht nofun
    exact hadmitted.messages ht
  case rejected =>
    intro task reason ht
    exact (turnedDown_of_rejected ht).messages
  case fails =>
    intro a run hfails
    rw [after_concat]
    exact hfails.ended
  case unattached =>
    intro a run hfails hnone
    rw [after_concat, h.fail_of_no_process hfails hnone]
    exact ⟨rfl, rfl⟩
  case attached =>
    intro a active process hfails hslot hprocess
    have hfail := Controller.fail_of_process hslot hprocess
    obtain ⟨p, hget, hrun, _⟩ := h.held_hooked hslot hprocess
    rw [after_concat, hfails.controller, hfails.terminations, hfail]
    refine ⟨rfl, rfl, fun rest => hrun ▸ releasedBy_after hget (a :: rest), fun q hq hkill => ?_⟩
    exact hfails.killed (by rw [hfail]) hq hkill
  case observed =>
    intro a process p hfails hget hhooked
    rw [after_concat, hfails.controller, hfails.terminations]
    cases hslot : (after site actions).controller.slot with
    | none =>
      rw [Controller.fail_of_empty hslot]
      exact ⟨hslot, rfl, rfl⟩
    | some active =>
      have hid : active.id ≠ p.run := by
        intro hid
        have hwaits := (h.held_iff_hooked hget).mp ⟨active, hslot, hid⟩
        rw [hhooked] at hwaits
        cases hwaits
      rw [Controller.fail_of_ne hslot hid]
      exact ⟨hslot, rfl, rfl⟩
  case indicator =>
    intro a run hfails hother
    rw [after_concat, hfails.controller] at hother ⊢
    exact Controller.indicator_of_fail hother
  case abandoned =>
    intro task run file ht
    rw [after_concat, h.abort_of_spawning ht]
    exact ⟨rfl, rfl, rfl⟩
  case left =>
    intro task run process ht
    obtain ⟨hc, hevents, hkilled⟩ := abort_of_attached ht
    obtain ⟨p, hget, hrun⟩ := h.attached_process ht
    rw [after_concat]
    refine ⟨hc, by rw [hevents]; rfl, ?_, hkilled⟩
    exact fun rest => hrun ▸ releasedBy_after hget (.abort task :: rest)

end System

end ModelCheck
