import ModelCheck.Proofs.System.Consistency

/-!
# What the controller publishes

The published state, the indicator and the status surface are kept apart from the slot, and change
in several places. In every history they agree with it: the state names the run in the slot and its
process, the indicator is active as long as that run has not failed, and the last call on the status
surface is the one for the indicator.
-/

namespace ModelCheck

/-- Whether an event is a call on the status surface. -/
def Event.isStatus : Event → Bool
  | .showStatus _ => true
  | .hideStatus => true
  | _ => false

/-- The call on the status surface by which an indicator is shown. -/
def Indicator.call : Indicator → Event
  | .hidden => .hideStatus
  | .idle => .showStatus (statusItem false)
  | .active => .showStatus (statusItem true)

namespace System

variable {site : Site} {s s' : System} {a : Action} {noted : List Event}

/-- The state that the slot and its process call for. -/
def stateOfSlot (s : System) : RunState :=
  match s.controller.slot with
  | none => .idle
  | some active =>
    match active.process with
    | none => .starting active.id active.file
    | some process => .running active.id active.file (s.processes[process]?.bind (·.pid))

/-- An empty slot calls for the idle state. -/
theorem stateOfSlot_of_empty (h : s.controller.slot = none) : s.stateOfSlot = .idle := by
  rw [stateOfSlot, h]

/-- A run without a process is starting. -/
theorem stateOfSlot_of_spawning {active : ActiveRun} (h : s.controller.slot = some active)
    (hnone : active.process = none) : s.stateOfSlot = .starting active.id active.file := by
  simp [stateOfSlot, h, hnone]

/-- A run with a process is running, under the number of the process. -/
theorem stateOfSlot_of_process {active : ActiveRun} {process : ProcessId} {p : Process}
    (h : s.controller.slot = some active) (hprocess : active.process = some process)
    (hget : s.processes[process]? = some p) :
    s.stateOfSlot = .running active.id active.file p.pid := by
  simp [stateOfSlot, h, hprocess, hget]

/-- The state called for does not change while the run in the slot keeps its number, file and
process. -/
theorem stateOfSlot_of_kept {f : ActiveRun → ActiveRun}
    (hf : ∀ r, (f r).id = r.id ∧ (f r).file = r.file ∧ (f r).process = r.process)
    (hslot : s'.controller.slot = s.controller.slot.map f) (hp : Later s.processes s'.processes) :
    s'.stateOfSlot = s.stateOfSlot := by
  have hpid : ∀ process : ProcessId,
      s'.processes[process]?.bind (·.pid) = s.processes[process]?.bind (·.pid) := by
    intro process
    cases hget : s.processes[process]? with
    | none =>
      have hnone := hp process
      rw [hget, Option.elim_none] at hnone
      rw [hnone]
    | some p =>
      obtain ⟨q, hq, hlater⟩ := hp.get hget
      rw [hq, Option.bind_some, Option.bind_some, hlater.pid]
  unfold stateOfSlot
  rw [hslot]
  cases s.controller.slot with
  | none => rfl
  | some active =>
    obtain ⟨hid, hfile, hprocess⟩ := hf active
    simp only [Option.map_some, hid, hfile, hprocess]
    cases active.process with
    | none => rfl
    | some process => simp only [hpid]

/-- The state is idle just when the slot is empty. -/
theorem stateOfSlot_eq_idle_iff : s.stateOfSlot = .idle ↔ s.controller.slot = none := by
  unfold stateOfSlot
  cases s.controller.slot with
  | none => exact iff_of_true rfl rfl
  | some active => cases hprocess : active.process <;> simp [hprocess]

/-- The state names a run as starting just when it is in the slot and has no process. -/
theorem stateOfSlot_eq_starting_iff {run : RunId} {file : Path} :
    s.stateOfSlot = .starting run file ↔ ∃ active, s.controller.slot = some active ∧
      active.id = run ∧ active.file = file ∧ active.process = none := by
  constructor
  · intro hstate
    unfold stateOfSlot at hstate
    split at hstate
    · cases hstate
    · next active hslot =>
      split at hstate
      · next hnone =>
        cases hstate
        exact ⟨active, hslot, rfl, rfl, hnone⟩
      · cases hstate
  · rintro ⟨active, hslot, rfl, rfl, hnone⟩
    exact stateOfSlot_of_spawning hslot hnone

/-- The state names a run as running just when it is in the slot and has a process. -/
theorem Consistent.stateOfSlot_eq_running_iff (h : Consistent s) {run : RunId} {file : Path}
    {pid : Option Nat} :
    s.stateOfSlot = .running run file pid ↔
      ∃ (active : ActiveRun) (process : ProcessId) (p : Process),
        s.controller.slot = some active ∧ active.id = run ∧ active.file = file ∧
        active.process = some process ∧ s.processes[process]? = some p ∧ p.run = run ∧
        p.pid = pid := by
  constructor
  · intro hstate
    unfold stateOfSlot at hstate
    split at hstate
    · cases hstate
    · next active hslot =>
      split at hstate
      · cases hstate
      · next process hprocess =>
        obtain ⟨p, hget, hrun, _⟩ := h.held_hooked hslot hprocess
        rw [hget, Option.bind_some] at hstate
        cases hstate
        exact ⟨active, process, p, hslot, rfl, rfl, hprocess, hget, hrun, rfl⟩
  · rintro ⟨active, process, p, hslot, rfl, rfl, hprocess, hget, _, rfl⟩
    exact stateOfSlot_of_process hslot hprocess hget

/-- The state and the indicator agree with the slot. -/
structure Agrees (s : System) : Prop where
  state : s.controller.state = s.stateOfSlot
  active_of_unfailed : ∀ {active : ActiveRun}, s.controller.slot = some active →
    active.failed = false → s.controller.indicator = .active
  hidden_of_failed : ∀ {active : ActiveRun}, s.controller.slot = some active →
    active.failed = true → s.controller.indicator = .hidden
  empty : s.controller.slot = none → s.controller.indicator ≠ .active

/-- An empty slot agrees with the idle state and an indicator that is not active. -/
theorem agrees_of_empty (hslot : s.controller.slot = none) (hstate : s.controller.state = .idle)
    (hindicator : s.controller.indicator ≠ .active) : Agrees s := by
  refine ⟨by rw [hstate, stateOfSlot_of_empty hslot], ?_, ?_, fun _ => hindicator⟩ <;>
    intro active hactive <;> rw [hslot] at hactive <;> cases hactive

/-- A run in the slot that has not failed agrees with an active indicator. -/
theorem agrees_of_unfailed {active : ActiveRun} (hslot : s.controller.slot = some active)
    (hfailed : active.failed = false) (hstate : s.controller.state = s.stateOfSlot)
    (hindicator : s.controller.indicator = .active) : Agrees s := by
  refine ⟨hstate, fun _ _ => hindicator, ?_, ?_⟩
  · intro other hother htrue
    rw [hslot] at hother
    cases hother
    rw [hfailed] at htrue
    cases htrue
  · intro hnone
    rw [hslot] at hnone
    cases hnone

/-- The indicator is active just when a run is in the slot that has not failed. -/
theorem Agrees.active_iff (h : Agrees s) : s.controller.indicator = .active ↔
    ∃ active, s.controller.slot = some active ∧ active.failed = false := by
  constructor
  · intro hindicator
    cases hslot : s.controller.slot with
    | none => exact absurd hindicator (h.empty hslot)
    | some active =>
      refine ⟨active, rfl, ?_⟩
      by_contra hfailed
      rw [Bool.not_eq_false] at hfailed
      rw [h.hidden_of_failed hslot hfailed] at hindicator
      cases hindicator
  · rintro ⟨active, hslot, hfailed⟩
    exact h.active_of_unfailed hslot hfailed

/-- Every change keeps the state and the indicator in agreement with the slot. -/
theorem Agrees.of_change (h : Agrees s) (hconsistent : Consistent s)
    (hchange : Change s a s' noted) : Agrees s' := by
  cases hchange with
  | quiet hc hr hp he =>
    have hstate : s'.stateOfSlot = s.stateOfSlot :=
      stateOfSlot_of_kept (f := id) (fun _ => ⟨rfl, rfl, rfl⟩) (by rw [hc, Option.map_id, id]) hp
    refine ⟨by rw [hc, hstate, h.state], ?_, ?_, ?_⟩ <;> rw [hc]
    · exact h.active_of_unfailed
    · exact h.hidden_of_failed
    · exact h.empty
  | @reserved task file hslot hc hr hp he =>
    have hslot' : s'.controller.slot = some ⟨s.controller.nextRun, file, none, false, false⟩ := by
      rw [hc]
    exact agrees_of_unfailed hslot' rfl (by rw [hc, stateOfSlot_of_spawning hslot' rfl])
      (by rw [hc])
  | @attached task active p hslot hnone ht hc hr hp hrun hhooked he =>
    have hslot' : s'.controller.slot =
        some { active with process := some s.processes.length } := by rw [hc]
    have hget : s'.processes[s.processes.length]? = some p := by
      rw [hp, List.getElem?_concat_length]
    have hfailed := hconsistent.held_unfailed hslot hnone
    refine agrees_of_unfailed hslot' hfailed ?_ ?_
    · rw [hc, stateOfSlot_of_process hslot' rfl hget]
    · rw [hc]
      exact h.active_of_unfailed hslot hfailed
  | @deferred active hslot hnone ha hc hr hp he =>
    have hfailed := hconsistent.held_unfailed hslot hnone
    have hslot' : s'.controller.slot = some { active with stopRequested := true } := by rw [hc]
    refine agrees_of_unfailed hslot' hfailed ?_ ?_
    · rw [hc, h.state, stateOfSlot_of_spawning hslot hnone, stateOfSlot_of_spawning hslot' hnone]
    · rw [hc]
      exact h.active_of_unfailed hslot hfailed
  | failedEarly hslot hnone ht hc hr hp he =>
    exact agrees_of_empty (by rw [hc]) (by rw [hc]) (by simp [hc])
  | abandoned hslot hnone ht hc hr hp he =>
    exact agrees_of_empty (by rw [hc]) (by rw [hc]) (by simp [hc])
  | @failed task active process hslot hprocess ht hc hr hp he =>
    have hslot' : s'.controller.slot = some { active with failed := true } := by rw [hc]
    have hindicator : s'.controller.indicator = .hidden := by rw [hc]
    have hstate : s'.stateOfSlot = s.stateOfSlot :=
      stateOfSlot_of_kept (f := fun r => { r with failed := true }) (fun _ => ⟨rfl, rfl, rfl⟩)
        (by rw [hslot', hslot, Option.map_some]) hp
    refine ⟨by rw [hstate, ← h.state, hc], ?_, fun _ _ => hindicator, ?_⟩
    · intro other hother hfalse
      rw [hslot'] at hother
      cases hother
      cases hfalse
    · intro hempty
      rw [hslot'] at hempty
      cases hempty
  | failedLate hslot ht hc hr hp he =>
    refine agrees_of_empty (by rw [hc, hslot]) ?_ (by simp [hc])
    rw [hc, h.state, stateOfSlot_of_empty hslot]
  | @completed active process p hslot hprocess hget hrun hexit hc hr hp he =>
    refine agrees_of_empty (by rw [hc]) (by rw [hc]) ?_
    rw [hc]
    dsimp only
    split
    · next hfailed =>
      rw [h.hidden_of_failed hslot hfailed]
      decide
    · decide

/-! ### The status surface -/

/-- The calls on the status surface among events. -/
def statusCalls (events : List Event) : List Event := events.filter Event.isStatus

/-- All calls on the status surface are among the events that changes note. -/
theorem statusCalls_filter (events : List Event) :
    statusCalls (events.filter Event.isNoted) = statusCalls events := by
  unfold statusCalls
  rw [List.filter_filter]
  congr 1
  funext e
  cases e <;> rfl

/-- What the status surface shows: the last call on it is the one for the indicator, or there has
been none and the indicator is hidden. -/
def Shows (events : List Event) (indicator : Indicator) : Prop :=
  (statusCalls events).getLast? = some indicator.call ∨
    statusCalls events = [] ∧ indicator = .hidden

/-- A change calls the status surface last for the indicator that it leaves, or leaves the indicator
as it is and does not call. -/
theorem Change.status (hchange : Change s a s' noted) :
    (statusCalls noted = [] ∧ s'.controller.indicator = s.controller.indicator) ∨
      (statusCalls noted).getLast? = some s'.controller.indicator.call := by
  cases hchange with
  | quiet hc hr hp he => exact .inl ⟨by rw [he]; rfl, by rw [hc]⟩
  | reserved hslot hc hr hp he => exact .inr (by rw [he, hc]; rfl)
  | attached hslot hnone ht hc hr hp hrun hhooked he => exact .inl ⟨by rw [he]; rfl, by rw [hc]⟩
  | deferred hslot hnone ha hc hr hp he => exact .inl ⟨by rw [he]; rfl, by rw [hc]⟩
  | failedEarly hslot hnone ht hc hr hp he => exact .inr (by rw [he, hc]; rfl)
  | abandoned hslot hnone ht hc hr hp he => exact .inr (by rw [he, hc]; rfl)
  | failed hslot hprocess ht hc hr hp he => exact .inr (by rw [he, hc]; rfl)
  | failedLate hslot ht hc hr hp he => exact .inr (by rw [he, hc]; rfl)
  | completed hslot hprocess hget hrun hexit hc hr hp he =>
    rw [he, hc]
    dsimp only
    split
    · exact .inl ⟨rfl, rfl⟩
    · exact .inr rfl

/-- More events with their calls keep the surface in step with the indicator. -/
theorem Shows.append {events more : List Event} {before rest : Indicator}
    (h : Shows events before)
    (hmore : (statusCalls more = [] ∧ rest = before) ∨
      (statusCalls more).getLast? = some rest.call) : Shows (events ++ more) rest := by
  have happend : statusCalls (events ++ more) = statusCalls events ++ statusCalls more :=
    List.filter_append ..
  unfold Shows
  rw [happend]
  rcases hmore with ⟨hnone, rfl⟩ | hlast
  · rw [hnone, List.append_nil]
    exact h
  · refine .inl ?_
    rw [List.getLast?_append, hlast]
    rfl

/-- In every reachable state the published state is the one that the slot calls for. -/
theorem agrees_after (site : Site) (actions : List Action) : Agrees (after site actions) := by
  refine after_induction (P := fun _ s _ => Agrees s) ?_ (fun actions a h => ?_) actions
  · exact agrees_of_empty rfl rfl (by simp [start, Controller.start])
  · exact h.of_change (consistent_after site actions) ((consistent_after site actions).change_step a)

/-- In every history the status surface shows the indicator that the controller has. -/
theorem shows_after (site : Site) (actions : List Action) :
    Shows (history site actions) (after site actions).controller.indicator := by
  refine after_induction (P := fun _ s events => Shows events s.controller.indicator)
    (.inr ⟨rfl, rfl⟩) (fun actions a h => h.append ?_) actions
  have hstatus := ((consistent_after site actions).change_step a).status
  rwa [statusCalls_filter] at hstatus

/-! ### After a failure -/

/-- A run has failed and has been dealt with: if it is still in the slot it is marked. -/
structure HasFailed (run : RunId) (s : System) : Prop where
  lt : run < s.controller.nextRun
  marked : ∀ {active : ActiveRun}, s.controller.slot = some active → active.id = run →
    active.failed = true

/-- A run that fails is marked, if it is still in the slot. -/
theorem Fails.hasFailed (hconsistent : Consistent s) {run : RunId} (h : Fails s a run) :
    HasFailed run (s.step a).1 := by
  refine ⟨?_, ?_⟩
  · have hlt : run < s.controller.nextRun := by
      cases h with
      | spawn h cause => exact hconsistent.run_lt (role_of_task h) rfl
      | stream h hp hfeed => exact hconsistent.run_lt (role_of_task h) rfl
      | diagnostics h cause => exact hconsistent.run_lt (role_of_task h) rfl
    exact Nat.lt_of_lt_of_le hlt (hconsistent.change_step a).nextRun_le
  · intro active hslot hid
    rw [h.controller] at hslot
    exact Controller.failed_of_fail hslot hid

/-- No change takes the mark from a run that has failed. -/
theorem HasFailed.of_change {run : RunId} (h : HasFailed run s) (hchange : Change s a s' noted) :
    HasFailed run s' := by
  refine ⟨Nat.lt_of_lt_of_le h.lt hchange.nextRun_le, ?_⟩
  intro active hslot hid
  rcases hchange.slot hslot with ⟨_, hnew, _⟩ | ⟨before, hbefore, hlater⟩
  · rw [hid] at hnew
    exact absurd hnew (Nat.ne_of_lt h.lt)
  · exact hlater.failed (h.marked hbefore (hlater.id.symm.trans hid))

/-- A run that failed once stays dealt with. -/
theorem hasFailed_after {run : RunId} {before : List Action} (h : Fails (after site before) a run)
    (rest : List Action) : HasFailed run (after site (before ++ a :: rest)) := by
  induction rest using List.reverseRecOn with
  | nil =>
    rw [after_concat]
    exact h.hasFailed (consistent_after site before)
  | append_singleton rest b ih =>
    have hsplit : before ++ a :: (rest ++ [b]) = (before ++ a :: rest) ++ [b] := by simp
    rw [hsplit]
    exact ih.of_change (change_after site _ b)

/-- The hook of a run that has failed shows nothing and leaves the indicator. -/
theorem HasFailed.observeExit {run : RunId} (h : HasFailed run s) {process : ProcessId}
    {p : Process} (hget : s.processes[process]? = some p) (hrun : p.run = run) :
    (s.step (.observeExit process)).2 = [] ∧
      (s.step (.observeExit process)).1.controller.indicator = s.controller.indicator := by
  have hcomplete : (s.controller.complete p.run).2 = [] ∧
      (s.controller.complete p.run).1.indicator = s.controller.indicator := by
    cases hslot : s.controller.slot with
    | none => rw [Controller.complete_of_empty hslot]; exact ⟨rfl, rfl⟩
    | some active =>
      by_cases hid : active.id = p.run
      · rw [← hid, Controller.complete_of_held hslot, h.marked hslot (hid.trans hrun)]
        exact ⟨rfl, rfl⟩
      · rw [Controller.complete_of_ne hslot hid]
        exact ⟨rfl, rfl⟩
  simp only [step, System.observeExit, hget]
  split
  · exact hcomplete
  · exact ⟨rfl, rfl⟩

/-! ### Waiting -/

/-- A waiting task ends idle only in a step that finds the idle state and leaves the controller
alone. -/
theorem Transition.idle_of_woken {events : List Event} (htransition : Transition s a s' events)
    {task : TaskId} (h : s.tasks[task]? = some .waiting)
    (h' : s'.tasks[task]? = some (.ended .idle)) :
    s.controller.state = .idle ∧ s'.controller = s.controller := by
  -- a step that moves a task does not move the waiting one to its end
  have hset : ∀ {P : Prop} {t : TaskId} {old stage : Stage}, s.tasks[t]? = some old →
      s'.tasks = s.tasks.set t stage → (old = .waiting → stage ≠ .ended .idle) → P := by
    intro P t old stage ht htasks hne
    rcases task_of_set ht htasks h' with ⟨rfl, hstage⟩ | ⟨hold, _⟩
    · rw [ht] at h
      exact absurd hstage (hne (Option.some.inj h))
    · rw [h] at hold
      cases hold
  have hsame : ∀ {P : Prop}, s'.tasks = s.tasks → P := by
    intro P htasks
    rw [htasks, h] at h'
    cases h'
  cases htransition with
  | woke ht hidle => exact ⟨hidle, rfl⟩
  | requested r =>
    rw [List.getElem?_append_left (List.getElem?_eq_some_iff.mp h).1, h] at h'
    cases h'
  | refused => exact hsame rfl
  | opened path => exact hsame rfl
  | closed => exact hsame rfl
  | displayed => exact hsame rfl
  | stopped => exact hsame (stop_tasks s)
  | taskDisplayed ht => exact hset ht rfl nofun
  | @taskStopped t ht =>
    have htasks : (s.stop.1.setTask t (.ended (.stopped s.stop.2.2))).tasks =
        s.tasks.set t (.ended (.stopped s.stop.2.2)) := by rw [setTask_tasks, stop_tasks]
    exact hset ht htasks nofun
  | waited ht => exact hset ht rfl nofun
  | offered ht hr hm => exact hset ht rfl nofun
  | answered ht accepted => exact hset ht rfl nofun
  | rejected ht hr hm hreason => exact hset ht rfl nofun
  | reserved ht hr hm => exact hset ht rfl nofun
  | attached ht pid termination => exact hset ht (by rw [attach_eq]; rfl) nofun
  | spawnFailed ht cause => exact hset ht (failCheck_tasks ..) nofun
  | readOn ht hget hfeed hopen => exact hset ht rfl nofun
  | readEnd ht hget hfeed hended => exact hset ht rfl nofun
  | readFailed ht hget hfeed => exact hset ht (failCheck_tasks ..) nofun
  | applied ht => exact hset ht rfl nofun
  | applyFailed ht cause => exact hset ht (failCheck_tasks ..) nofun
  | dropped ht hstage => exact hset ht rfl (fun _ => nofun)
  | abandoned ht => exact hset ht rfl nofun
  | readingDropped ht => exact hset ht rfl nofun
  | applyingDropped ht => exact hset ht rfl nofun
  | wrote process chunk => exact hsame rfl
  | outputEnded process => exact hsame rfl
  | exited process exit => exact hsame rfl
  | observed hget hhooked hexit => exact hsame rfl

/-! ### The invariant -/

/-- The state, the indicator and the status surface after actions from the start. -/
structure Published (site : Site) (actions : List Action) : Prop where
  idle : (after site actions).controller.state = .idle ↔ (after site actions).controller.slot = none
  starting : ∀ run file, (after site actions).controller.state = .starting run file ↔
    ∃ active, (after site actions).controller.slot = some active ∧ active.id = run ∧
      active.file = file ∧ active.process = none
  running : ∀ run file pid, (after site actions).controller.state = .running run file pid ↔
    ∃ (active : ActiveRun) (process : ProcessId) (p : Process),
      (after site actions).controller.slot = some active ∧ active.id = run ∧ active.file = file ∧
      active.process = some process ∧ (after site actions).processes[process]? = some p ∧
      p.run = run ∧ p.pid = pid
  active : (after site actions).controller.indicator = .active ↔
    ∃ active, (after site actions).controller.slot = some active ∧ active.failed = false
  failed : ∀ active, (after site actions).controller.slot = some active → active.failed = true →
    (after site actions).controller.indicator = .hidden
  shows : Shows (history site actions) (after site actions).controller.indicator
  /-- The hook of a run that failed in an earlier step shows nothing and leaves the indicator. -/
  hook : ∀ before a rest run process (p : Process), actions = before ++ a :: rest →
    Fails (after site before) a run → (after site actions).processes[process]? = some p →
    p.run = run → ((after site actions).step (.observeExit process)).2 = [] ∧
      (after site (actions ++ [.observeExit process])).controller.indicator =
        (after site actions).controller.indicator
  /-- A task that waits for the idle state finds the slot empty, and leaves it so. -/
  waiting : ∀ (a : Action) (task : TaskId), (after site actions).tasks[task]? = some .waiting →
    (after site (actions ++ [a])).tasks[task]? = some (.ended .idle) →
    (after site actions).controller.slot = none ∧
      (after site (actions ++ [a])).controller.slot = none

/-- In every history the controller publishes what is in its slot. -/
theorem published (site : Site) (actions : List Action) : Published site actions := by
  have h := consistent_after site actions
  have hagrees := agrees_after site actions
  have hidle : (after site actions).controller.state = .idle ↔
      (after site actions).controller.slot = none := by
    rw [hagrees.state]
    exact stateOfSlot_eq_idle_iff
  refine ⟨hidle, ?starting, ?running, hagrees.active_iff, fun active => hagrees.hidden_of_failed,
    shows_after site actions, ?hook, ?waiting⟩
  case starting =>
    intro run file
    rw [hagrees.state]
    exact stateOfSlot_eq_starting_iff
  case running =>
    intro run file pid
    rw [hagrees.state]
    exact h.stateOfSlot_eq_running_iff
  case hook =>
    rintro before a rest run process p rfl hfails hget hrun
    rw [after_concat]
    exact (hasFailed_after hfails rest).observeExit hget hrun
  case waiting =>
    intro a task hwaiting hended
    rw [after_concat] at hended ⊢
    obtain ⟨hstate, hc⟩ := (transition_step _ a).idle_of_woken hwaiting hended
    rw [hc]
    exact ⟨hidle.mp hstate, hidle.mp hstate⟩

end System

end ModelCheck
