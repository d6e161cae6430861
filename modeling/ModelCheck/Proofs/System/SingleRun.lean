import Mathlib.Data.List.Nodup
import Mathlib.Data.List.Range
import Mathlib.Logic.ExistsUnique
import ModelCheck.Proofs.System.Consistency

/-!
# One run at a time

A run is unfinished while its process is being spawned, and then until the hook of its process lets
go. In every history the slot is the account of the unfinished runs: it is empty when there is none,
and holds the only one otherwise. Every run that was admitted leaves it once at most, and only by a
release of its own.
-/

namespace ModelCheck

/-- The run and the file that an event asks a process for. -/
def Event.spawn? : Event → Option (RunId × Path)
  | .spawn run _ file _ => some (run, file)
  | _ => none

namespace System

variable {site : Site} {s s' : System} {a : Action} {noted : List Event}

/-- A run is unfinished while a task waits for its process to be spawned, or while its process has a
hook that has not let go. -/
def Unfinished (s : System) (run : RunId) : Prop :=
  (∃ (task : TaskId) (file : Path), s.tasks[task]? = some (.spawning run file)) ∨
    ∃ (process : ProcessId) (p : Process),
      s.processes[process]? = some p ∧ p.run = run ∧ p.hooked = true

/-- The unfinished runs of a consistent system are the one in the slot. -/
theorem Consistent.unfinished_iff (h : Consistent s) {run : RunId} :
    s.Unfinished run ↔ ∃ active, s.controller.slot = some active ∧ active.id = run := by
  constructor
  · rintro (⟨task, file, ht⟩ | ⟨process, p, hget, rfl, hhooked⟩)
    · obtain ⟨active, hslot, hid, _⟩ := h.spawning_held (role_eq_spawning_iff.mpr ht)
      exact ⟨active, hslot, hid⟩
    · exact h.hooked_held hget hhooked
  · rintro ⟨active, hslot, rfl⟩
    cases hprocess : active.process with
    | none =>
      obtain ⟨task, ht⟩ := h.held_spawning hslot hprocess
      exact .inl ⟨task, _, role_eq_spawning_iff.mp ht⟩
    | some process =>
      obtain ⟨p, hget, hrun, hhooked⟩ := h.held_hooked hslot hprocess
      exact .inr ⟨process, p, hget, hrun, hhooked⟩

/-- The slot of a consistent system is occupied exactly when one run is unfinished. -/
theorem Consistent.slot_isSome_iff (h : Consistent s) :
    s.controller.slot.isSome ↔ ∃! run, s.Unfinished run := by
  rw [Option.isSome_iff_exists]
  constructor
  · rintro ⟨active, hslot⟩
    refine ⟨active.id, h.unfinished_iff.mpr ⟨active, hslot, rfl⟩, fun run hrun => ?_⟩
    obtain ⟨other, hother, rfl⟩ := h.unfinished_iff.mp hrun
    rw [hslot] at hother
    cases hother
    rfl
  · rintro ⟨run, hrun, _⟩
    obtain ⟨active, hslot, _⟩ := h.unfinished_iff.mp hrun
    exact ⟨active, hslot⟩

/-! ### Admissions and releases -/

/-- The runs for which processes are asked in a list of events, with their files. -/
def admissions (events : List Event) : List (RunId × Path) := events.filterMap Event.spawn?

/-- Runs are admitted in the order of the events. -/
theorem admissions_append (events more : List Event) :
    admissions (events ++ more) = admissions events ++ admissions more :=
  List.filterMap_append

/-- Admissions are among the events that changes note. -/
theorem admissions_filter (events : List Event) :
    admissions (events.filter Event.isNoted) = admissions events := by
  induction events with
  | nil => rfl
  | cons e events ih =>
    unfold admissions at ih ⊢
    cases e <;> simp [List.filter_cons, List.filterMap_cons, Event.isNoted, Event.spawn?, ih]

/-- The run that leaves the slot in a step. -/
def released (s : System) (a : Action) : Option RunId :=
  s.controller.slot.bind fun active =>
    if (s.step a).1.controller.slot.map (·.id) = some active.id then none else some active.id

/-- The runs that leave the slot in the course of actions. -/
def releases (s : System) : List Action → List RunId
  | [] => []
  | a :: rest => (s.released a).toList ++ releases (s.step a).1 rest

/-- Runs are released in the order of the actions, each by the system that the actions before have left.
-/
theorem releases_append (s : System) (before rest : List Action) :
    s.releases (before ++ rest) = s.releases before ++ (s.run before).1.releases rest := by
  induction before generalizing s with
  | nil => simp [releases, run]
  | cons a before ih => simp [releases, run, ih]

/-- One more action releases a run if the one in the slot leaves it. -/
theorem releases_concat (actions : List Action) (a : Action) :
    (start site).releases (actions ++ [a]) =
      (start site).releases actions ++ ((after site actions).released a).toList := by
  rw [releases_append, releases, releases, List.append_nil, after]

/-- The number and the file of the run in the slot. -/
def held (s : System) : List (RunId × Path) :=
  (s.controller.slot.map fun active => (active.id, active.file)).toList

/-- A change that admits no run keeps the one in the slot or empties the slot; a run is admitted to
an empty slot only. -/
theorem Change.held (h : Change s a s' noted) :
    (admissions noted = [] ∧ s'.controller.nextRun = s.controller.nextRun ∧
      (s'.held = s.held ∨ s'.held = [])) ∨
    ∃ file, admissions noted = [(s.controller.nextRun, file)] ∧
      s'.controller.nextRun = s.controller.nextRun + 1 ∧ s.held = [] ∧
      s'.held = [(s.controller.nextRun, file)] := by
  cases h with
  | quiet hc hr hp he =>
    exact .inl ⟨by rw [he]; rfl, by rw [hc], .inl (by rw [System.held, hc]; rfl)⟩
  | reserved hslot hc hr hp he =>
    refine .inr ⟨_, by rw [he]; rfl, by rw [hc], by rw [System.held, hslot]; rfl, ?_⟩
    rw [System.held, hc]
    rfl
  | attached hslot hnone ht hc hr hp hrun hhooked he =>
    exact .inl ⟨by rw [he]; rfl, by rw [hc], .inl (by simp [System.held, hc, hslot])⟩
  | deferred hslot hnone ha hc hr hp he =>
    exact .inl ⟨by rw [he]; rfl, by rw [hc], .inl (by simp [System.held, hc, hslot])⟩
  | failedEarly hslot hnone ht hc hr hp he =>
    exact .inl ⟨by rw [he]; rfl, by rw [hc], .inr (by rw [System.held, hc]; rfl)⟩
  | abandoned hslot hnone ht hc hr hp he =>
    exact .inl ⟨by rw [he]; rfl, by rw [hc], .inr (by rw [System.held, hc]; rfl)⟩
  | failed hslot hprocess ht hc hr hp he =>
    exact .inl ⟨by rw [he]; rfl, by rw [hc], .inl (by simp [System.held, hc, hslot])⟩
  | failedLate hslot ht hc hr hp he =>
    exact .inl ⟨by rw [he]; rfl, by rw [hc], .inl (by rw [System.held, System.held, hc])⟩
  | @completed active process p hslot hprocess hget hrun hexit hc hr hp he =>
    refine .inl ⟨?_, by rw [hc], .inr (by rw [System.held, hc]; rfl)⟩
    rw [he]
    split <;> rfl

/-- What leaves the slot in a step, and what is in it afterwards. -/
theorem released_eq (s : System) (a : Action)
    (h : (s.step a).1.held = s.held ∨ (s.step a).1.held = []) :
    (s.released a).toList ++ (s.step a).1.held.map Prod.fst = s.held.map Prod.fst := by
  unfold released
  unfold held at h ⊢
  cases hslot : s.controller.slot with
  | none =>
    cases hslot' : (s.step a).1.controller.slot <;> simp_all
  | some active =>
    cases hslot' : (s.step a).1.controller.slot <;> simp_all

/-- From an empty slot nothing is released. -/
theorem released_of_empty (h : s.held = []) : s.released a = none := by
  unfold released held at *
  cases hslot : s.controller.slot with
  | none => rfl
  | some active => simp [hslot] at h

/-- The account of a history: the runs were admitted in the order of their numbers, and each has
been released or is in the slot. -/
structure Account (site : Site) (actions : List Action) : Prop where
  admitted : (admissions (history site actions)).map Prod.fst =
    List.range (after site actions).controller.nextRun
  held : ∀ entry ∈ (after site actions).held, entry ∈ admissions (history site actions)
  released : (start site).releases actions ++ (after site actions).held.map Prod.fst =
    List.range (after site actions).controller.nextRun

/-- The account of every history is in order. -/
theorem account (site : Site) (actions : List Action) : Account site actions := by
  induction actions using List.reverseRecOn with
  | nil => exact ⟨rfl, fun _ h => absurd h List.not_mem_nil, rfl⟩
  | append_singleton actions a ih =>
    have hchange := ((consistent_after site actions).change_step a).held
    rw [admissions_filter] at hchange
    refine ⟨?_, ?_, ?_⟩ <;> rw [after_concat]
    · rw [history_concat, admissions_append, List.map_append, ih.admitted]
      rcases hchange with ⟨hnone, hnext, _⟩ | ⟨file, hone, hnext, _⟩
      · rw [hnone, hnext, List.map_nil, List.append_nil]
      · rw [hone, hnext, List.range_succ]
        rfl
    · intro entry hentry
      rw [history_concat, admissions_append, List.mem_append]
      rcases hchange with ⟨_, _, hheld | hheld⟩ | ⟨file, hone, _, _, hheld⟩
      · rw [hheld] at hentry
        exact .inl (ih.held entry hentry)
      · rw [hheld] at hentry
        cases hentry
      · rw [hheld] at hentry
        rw [hone]
        exact .inr hentry
    · rw [releases_concat, List.append_assoc]
      rcases hchange with ⟨_, hnext, hheld⟩ | ⟨file, _, hnext, hempty, hheld⟩
      · rw [released_eq _ _ hheld, hnext, ih.released]
      · have hrest := ih.released
        rw [hempty, List.map_nil, List.append_nil] at hrest
        rw [released_of_empty hempty, hheld, hnext, List.range_succ, hrest]
        rfl

/-- A run asks for one file only. -/
theorem Account.file_unique {actions : List Action} (h : Account site actions) {run : RunId}
    {file file' : Path} (hmem : (run, file) ∈ admissions (history site actions))
    (hmem' : (run, file') ∈ admissions (history site actions)) : file = file' := by
  have hnodup : ((admissions (history site actions)).map Prod.fst).Nodup := by
    rw [h.admitted]
    exact List.nodup_range
  have hsame := List.inj_on_of_nodup_map hnodup hmem hmem' rfl
  cases hsame
  rfl

/-! ### Who empties the slot -/

/-- An action that, in a system, requests the release of a run: its process has exited, its task is
dropped while it spawns, or it fails. -/
inductive RequestsRelease (s : System) : Action → RunId → Prop
  | exited {process : ProcessId} {p : Process} (h : s.processes[process]? = some p)
      (hhooked : p.hooked = true) (hexit : p.exit ≠ .pending) :
      RequestsRelease s (.observeExit process) p.run
  | dropped {task : TaskId} {run : RunId} {file : Path}
      (h : s.tasks[task]? = some (.spawning run file)) : RequestsRelease s (.abort task) run
  | failed {a : Action} {run : RunId} (h : Fails s a run) : RequestsRelease s a run

/-- A release requested for one run leaves a slot alone that holds another. -/
theorem RequestsRelease.slot_of_ne {run : RunId} (h : RequestsRelease s a run) {active : ActiveRun}
    (hslot : s.controller.slot = some active) (hne : active.id ≠ run) :
    (s.step a).1.controller.slot = some active := by
  cases h with
  | exited h hhooked hexit =>
    simp [step, observeExit, h, hhooked, hexit, Controller.complete_of_ne hslot hne, hslot]
  | dropped h => simp [step, abort, h, Controller.abandon_of_ne hslot hne, hslot]
  | failed h => rw [h.controller, Controller.fail_of_ne hslot hne, hslot]

/-- A stop does not change which run is in the slot. -/
theorem stop_slot_id {active : ActiveRun} (hslot : s.controller.slot = some active) :
    s.stop.1.controller.slot.map (·.id) = some active.id := by
  rw [stop_eq]
  cases hprocess : active.process with
  | none => simp [Controller.stop_of_spawning hslot hprocess]
  | some process => simp [Controller.stop_of_process hslot hprocess, hslot]

/-- A step after which the slot does not hold its run any more has requested the release of that
run. -/
theorem Transition.requestsRelease {events : List Event} (htransition : Transition s a s' events)
    {active : ActiveRun} (hslot : s.controller.slot = some active)
    (hleft : s'.controller.slot.map (·.id) ≠ some active.id) : RequestsRelease s a active.id := by
  have hkept : ∀ s' : System, s'.controller.slot = some active →
      s'.controller.slot.map (·.id) = some active.id := by
    intro s' h
    rw [h, Option.map_some]
  -- a failure of another run leaves the slot alone
  have hfails : ∀ {run : RunId}, Fails s a run →
      s'.controller = (s.controller.fail run).1 → RequestsRelease s a active.id := by
    intro run hfails hc
    by_cases hid : active.id = run
    · rw [hid]
      exact .failed hfails
    · exact absurd (hkept s' (by rw [hc, Controller.fail_of_ne hslot hid, hslot])) hleft
  cases htransition with
  | stopped => exact absurd (stop_slot_id hslot) hleft
  | taskStopped ht => exact absurd (stop_slot_id hslot) hleft
  | reserved ht hr hm =>
    rw [Controller.slot_of_modelToCheck hm] at hslot
    cases hslot
  | @attached task run file ht pid termination =>
    refine absurd ?_ hleft
    by_cases hid : active.id = run <;> simp [attach_eq, Controller.attach, hslot, hid]
  | spawnFailed ht cause => exact hfails (.spawn ht cause) (failCheck_controller ..)
  | readFailed ht hget hfeed => exact hfails (.stream ht hget hfeed) (failCheck_controller ..)
  | applyFailed ht cause => exact hfails (.diagnostics ht cause) (failCheck_controller ..)
  | @abandoned task run file ht =>
    by_cases hid : active.id = run
    · subst hid
      exact .dropped ht
    · exact absurd (hkept _ (by simp [Controller.abandon_of_ne hslot hid, hslot])) hleft
  | @observed process p hget hhooked hexit =>
    by_cases hid : active.id = p.run
    · rw [hid]
      exact .exited hget hhooked hexit
    · exact absurd (hkept _ (by simp [Controller.complete_of_ne hslot hid, hslot])) hleft
  | refused => exact absurd (hkept _ hslot) hleft
  | opened path => exact absurd (hkept _ hslot) hleft
  | closed => exact absurd (hkept _ hslot) hleft
  | requested r => exact absurd (hkept _ hslot) hleft
  | displayed => exact absurd (hkept _ hslot) hleft
  | taskDisplayed ht => exact absurd (hkept _ hslot) hleft
  | waited ht => exact absurd (hkept _ hslot) hleft
  | woke ht hidle => exact absurd (hkept _ hslot) hleft
  | offered ht hr hm => exact absurd (hkept _ hslot) hleft
  | answered ht accepted => exact absurd (hkept _ hslot) hleft
  | rejected ht hr hm hreason => exact absurd (hkept _ hslot) hleft
  | readOn ht hget hfeed hopen => exact absurd (hkept _ hslot) hleft
  | readEnd ht hget hfeed hended => exact absurd (hkept _ hslot) hleft
  | applied ht => exact absurd (hkept _ hslot) hleft
  | dropped ht hstage => exact absurd (hkept _ hslot) hleft
  | readingDropped ht => exact absurd (hkept _ hslot) hleft
  | applyingDropped ht => exact absurd (hkept _ hslot) hleft
  | wrote process chunk => exact absurd (hkept _ hslot) hleft
  | outputEnded process => exact absurd (hkept _ hslot) hleft
  | exited process exit => exact absurd (hkept _ hslot) hleft

/-! ### The invariant -/

/-- What the slot says of its run: its number and file are those with which the run asked for a
process, no process is named while one is being spawned, and afterwards the run's only process is
named, which has a hook. -/
structure Describes (events : List Event) (s : System) (active : ActiveRun) : Prop where
  unfinished : s.Unfinished active.id
  file : ∀ file, (active.id, file) ∈ admissions events ↔ file = active.file
  spawning : active.process = none ↔
    ∃ (task : TaskId) (file : Path), s.tasks[task]? = some (.spawning active.id file)
  process : ∀ process, active.process = some process ↔
    ∃ p : Process, s.processes[process]? = some p ∧ p.run = active.id
  hooked : ∀ (process : ProcessId) (p : Process), s.processes[process]? = some p →
    p.run = active.id → p.hooked = true

/-- In every reachable state the slot describes its run. -/
theorem describes (actions : List Action) {active : ActiveRun}
    (hslot : (after site actions).controller.slot = some active) :
    Describes (history site actions) (after site actions) active := by
  have h := consistent_after site actions
  have haccount := account site actions
  have hadmitted : (active.id, active.file) ∈ admissions (history site actions) :=
    haccount.held _ (by simp [held, hslot])
  have hprocess : ∀ process, active.process = some process ↔
      ∃ p : Process, (after site actions).processes[process]? = some p ∧ p.run = active.id := by
    intro process
    constructor
    · intro hsome
      obtain ⟨p, hget, hrun, _⟩ := h.held_hooked hslot hsome
      exact ⟨p, hget, hrun⟩
    · rintro ⟨p, hget, hrun⟩
      exact h.held_process hslot hget hrun
  refine ⟨?unfinished, ?file, ?spawning, hprocess, ?hooked⟩
  case unfinished => exact h.unfinished_iff.mpr ⟨active, hslot, rfl⟩
  case file =>
    intro file
    constructor
    · intro hmem
      exact haccount.file_unique hmem hadmitted
    · rintro rfl
      exact hadmitted
  case spawning =>
    constructor
    · intro hnone
      obtain ⟨task, ht⟩ := h.held_spawning hslot hnone
      exact ⟨task, _, role_eq_spawning_iff.mp ht⟩
    · rintro ⟨task, file, ht⟩
      obtain ⟨other, hother, _, _, hnone⟩ := h.spawning_held (role_eq_spawning_iff.mpr ht)
      rw [hslot] at hother
      cases hother
      exact hnone
  case hooked =>
    intro process p hget hrun
    obtain ⟨q, hq, _, hhooked⟩ := h.held_hooked hslot (h.held_process hslot hget hrun)
    rw [hget] at hq
    cases hq
    exact hhooked

/-- When nothing spawns and every reported exit has been seen, the slot is occupied exactly as long
as the exit of some process has not been reported. -/
theorem Consistent.slot_isSome_iff_pending (h : Consistent s)
    (hspawning : ∀ (task : TaskId) (run : RunId) (file : Path),
      s.tasks[task]? ≠ some (.spawning run file))
    (hseen : ∀ (process : ProcessId) (p : Process), s.processes[process]? = some p →
      p.exit ≠ .pending → p.hooked = false) :
    s.controller.slot.isSome ↔ ∃ (process : ProcessId) (p : Process),
      s.processes[process]? = some p ∧ p.exit = .pending := by
  rw [Option.isSome_iff_exists]
  constructor
  · rintro ⟨active, hslot⟩
    rcases h.unfinished_iff.mpr ⟨active, hslot, rfl⟩ with
      ⟨task, file, ht⟩ | ⟨process, p, hget, _, hhooked⟩
    · exact absurd ht (hspawning _ _ _)
    · refine ⟨process, p, hget, ?_⟩
      by_contra hexit
      rw [hseen process p hget hexit] at hhooked
      cases hhooked
  · rintro ⟨process, p, hget, hexit⟩
    have hhooked : p.hooked = true := by
      by_contra hne
      exact h.unhooked_exited hget (by simpa using hne) hexit
    obtain ⟨active, hslot, _⟩ := h.hooked_held hget hhooked
    exact ⟨active, hslot⟩

/-- One run at a time, after actions from the start. -/
structure OneRun (site : Site) (actions : List Action) : Prop where
  /-- No two runs are unfinished. -/
  unique : ∀ run other, (after site actions).Unfinished run → (after site actions).Unfinished other →
    run = other
  /-- The slot is occupied exactly when one run is unfinished. -/
  occupied : (after site actions).controller.slot.isSome ↔ ∃! run, (after site actions).Unfinished run
  /-- The slot describes the run in it. -/
  describes : ∀ active, (after site actions).controller.slot = some active →
    Describes (history site actions) (after site actions) active
  /-- The runs that were admitted are those that were released and the one in the slot, and no run
  is among them twice. -/
  account : (admissions (history site actions)).map Prod.fst =
    (start site).releases actions ++ (after site actions).held.map Prod.fst
  nodup : ((start site).releases actions ++ (after site actions).held.map Prod.fst).Nodup
  /-- A release requested for one run leaves a slot alone that holds another. -/
  release : ∀ a run active, RequestsRelease (after site actions) a run →
    (after site actions).controller.slot = some active → active.id ≠ run →
    (after site (actions ++ [a])).controller.slot = some active
  /-- A run leaves the slot only by a release requested for it, and no other takes its place in the
  same step. -/
  left : ∀ a run, (after site actions).released a = some run →
    RequestsRelease (after site actions) a run ∧ (after site (actions ++ [a])).controller.slot = none
  /-- Once the exit of the process in the slot has been reported, its hook can empty the slot. -/
  freed : ∀ active process (p : Process), (after site actions).controller.slot = some active →
    active.process = some process → (after site actions).processes[process]? = some p →
    p.exit ≠ .pending → (after site (actions ++ [.observeExit process])).controller.slot = none
  /-- When nothing spawns and every reported exit has been seen, the slot is occupied exactly as
  long as some process runs. -/
  settled : (∀ (task : TaskId) (run : RunId) (file : Path),
      (after site actions).tasks[task]? ≠ some (.spawning run file)) →
    (∀ (process : ProcessId) (p : Process), (after site actions).processes[process]? = some p →
      p.exit ≠ .pending → p.hooked = false) →
    ((after site actions).controller.slot.isSome ↔ ∃ (process : ProcessId) (p : Process),
      (after site actions).processes[process]? = some p ∧ p.exit = .pending)

/-- In every history, whatever the order of its steps, there is one run at a time. -/
theorem one_run (site : Site) (actions : List Action) : OneRun site actions := by
  have h := consistent_after site actions
  have haccount := account site actions
  refine ⟨?unique, h.slot_isSome_iff, fun active => describes actions, ?account, ?nodup, ?release,
    ?left, ?freed, fun hspawning hseen => h.slot_isSome_iff_pending hspawning hseen⟩
  case unique =>
    intro run other hrun hother
    obtain ⟨active, hslot, rfl⟩ := h.unfinished_iff.mp hrun
    obtain ⟨active', hslot', rfl⟩ := h.unfinished_iff.mp hother
    rw [hslot] at hslot'
    cases hslot'
    rfl
  case account => rw [haccount.admitted, haccount.released]
  case nodup => rw [haccount.released]; exact List.nodup_range
  case release =>
    intro a run active hrequest hslot hne
    rw [after_concat]
    exact hrequest.slot_of_ne hslot hne
  case left =>
    intro a run hreleased
    obtain ⟨active, hslot, hrun⟩ := Option.bind_eq_some_iff.mp hreleased
    split at hrun
    · cases hrun
    · next hleft =>
      cases hrun
      refine ⟨(transition_step _ a).requestsRelease hslot hleft, ?_⟩
      rw [after_concat]
      rcases (h.change_step a).held with ⟨_, _, hheld | hheld⟩ | ⟨file, _, _, hempty, _⟩
      · refine absurd ?_ hleft
        cases hslot' : ((after site actions).step a).1.controller.slot <;> simp_all [held]
      · cases hslot' : ((after site actions).step a).1.controller.slot <;> simp_all [held]
      · simp [held, hslot] at hempty
  case freed =>
    intro active process p hslot hprocess hget hexit
    obtain ⟨q, hq, hrun, hhooked⟩ := h.held_hooked hslot hprocess
    rw [hget] at hq
    cases hq
    rw [after_concat]
    simp [step, observeExit, hget, hhooked, hexit, hrun, Controller.complete_of_held hslot]

end System

end ModelCheck
