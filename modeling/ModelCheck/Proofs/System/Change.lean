import ModelCheck.Proofs.System.Cause

/-!
# What a step does to the slot

`Consistent` says how the roles of the tasks and the processes with a hook stand behind the slot. A
step changes the controller in one of nine ways, listed in `Change`, and each of them leaves a
consistent system.
-/

namespace ModelCheck

/-- What no step takes from the run in the slot while it stays there. -/
structure ActiveRun.Later (before rest : ActiveRun) : Prop where
  id : rest.id = before.id
  file : rest.file = before.file
  stopRequested : before.stopRequested = true → rest.stopRequested = true
  failed : before.failed = true → rest.failed = true

/-- Nothing has been taken from a run that is as it was. -/
theorem ActiveRun.Later.refl (r : ActiveRun) : r.Later r := ⟨rfl, rfl, fun h => h, fun h => h⟩

namespace System

/-- Runs, tasks and processes belong together: a run has at most one process and one task, a task is
attached to the process of its run, and a hook lets go only after an exit was reported. -/
structure Owned (s : System) : Prop where
  attached_process : ∀ {task : TaskId} {run : RunId} {process : ProcessId},
    s.role task = .attached run process → ∃ p, s.processes[process]? = some p ∧ p.run = run
  unhooked_exited : ∀ {process : ProcessId} {p : Process}, s.processes[process]? = some p →
    p.hooked = false → p.exit ≠ .pending
  process_lt : ∀ {process : ProcessId} {p : Process}, s.processes[process]? = some p →
    p.run < s.controller.nextRun
  process_unique : ∀ {i j : ProcessId} {p q : Process}, s.processes[i]? = some p →
    s.processes[j]? = some q → p.run = q.run → i = j
  role_unique : ∀ {t u : TaskId} {run : RunId}, (s.role t).run? = some run →
    (s.role u).run? = some run → t = u

/-- What holds besides between them and the slot. The run in the slot is the last one that was
admitted; before it has a process its task spawns one, and from then on its process has a hook. No
other task spawns, and no other process has a hook. -/
structure Consistent (s : System) : Prop extends Owned s where
  held_last : ∀ {active : ActiveRun}, s.controller.slot = some active →
    s.controller.nextRun = active.id + 1
  held_unfailed : ∀ {active : ActiveRun}, s.controller.slot = some active →
    active.process = none → active.failed = false
  held_spawning : ∀ {active : ActiveRun}, s.controller.slot = some active →
    active.process = none → ∃ task, s.role task = .spawning active.id active.file
  held_hooked : ∀ {active : ActiveRun} {process : ProcessId},
    s.controller.slot = some active → active.process = some process →
    ∃ p, s.processes[process]? = some p ∧ p.run = active.id ∧ p.hooked = true
  held_process : ∀ {active : ActiveRun} {process : ProcessId} {p : Process},
    s.controller.slot = some active → s.processes[process]? = some p → p.run = active.id →
    active.process = some process
  spawning_held : ∀ {task : TaskId} {run : RunId} {file : Path},
    s.role task = .spawning run file → ∃ active, s.controller.slot = some active ∧
      active.id = run ∧ active.file = file ∧ active.process = none
  hooked_held : ∀ {process : ProcessId} {p : Process}, s.processes[process]? = some p →
    p.hooked = true → ∃ active, s.controller.slot = some active ∧ active.id = p.run

end System

/-- Whether an event is noted in a change: a process is asked for, or the status surface changes. -/
def Event.isNoted : Event → Bool
  | .spawn _ _ _ _ => true
  | .showStatus _ => true
  | .hideStatus => true
  | _ => false

namespace System

/-- What a step does to the slot, the published state and the indicator, with the events in it that
are noted. -/
inductive Change (s : System) (a : Action) (s' : System) (noted : List Event) : Prop
  /-- The controller stays as it is. A task may leave a run that has a process. -/
  | quiet (hc : s'.controller = s.controller)
      (hr : ∀ t, s'.role t = s.role t ∨
        (∃ run process, s.role t = .attached run process) ∧ s'.role t = .bystander)
      (hp : Later s.processes s'.processes) (he : noted = [])
  /-- A run is admitted. -/
  | reserved {task : TaskId} {file : Path} (hslot : s.controller.slot = none)
      (hc : s'.controller = ⟨some ⟨s.controller.nextRun, file, none, false, false⟩,
        .starting s.controller.nextRun file, .active, s.controller.nextRun + 1⟩)
      (hr : s.Recast s' task (.spawning s.controller.nextRun file))
      (hp : s'.processes = s.processes)
      (he : noted = [.showStatus (statusItem true),
        .spawn s.controller.nextRun checkerTool file checkerArguments])
  /-- The run in the slot gets its process. -/
  | attached {task : TaskId} {active : ActiveRun} {p : Process}
      (hslot : s.controller.slot = some active) (hnone : active.process = none)
      (ht : s.role task = .spawning active.id active.file)
      (hc : s'.controller = { s.controller with
        slot := some { active with process := some s.processes.length }
        state := .running active.id active.file p.pid })
      (hr : s.Recast s' task (.attached active.id s.processes.length))
      (hp : s'.processes = s.processes ++ [p]) (hrun : p.run = active.id)
      (hhooked : p.hooked = true) (he : noted = [])
  /-- A stop is kept for a run that has no process yet. -/
  | deferred {active : ActiveRun} (hslot : s.controller.slot = some active)
      (hnone : active.process = none) (ha : s.IsStop a)
      (hc : s'.controller =
        { s.controller with slot := some { active with stopRequested := true } })
      (hr : s'.role = s.role) (hp : s'.processes = s.processes) (he : noted = [])
  /-- The run in the slot fails before it has a process. -/
  | failedEarly {task : TaskId} {active : ActiveRun} (hslot : s.controller.slot = some active)
      (hnone : active.process = none) (ht : s.role task = .spawning active.id active.file)
      (hc : s'.controller =
        { s.controller with slot := none, state := .idle, indicator := .hidden })
      (hr : s.Recast s' task .bystander) (hp : s'.processes = s.processes)
      (he : noted = [.hideStatus])
  /-- The task of the run in the slot is dropped before there is a process. -/
  | abandoned {task : TaskId} {active : ActiveRun} (hslot : s.controller.slot = some active)
      (hnone : active.process = none) (ht : s.role task = .spawning active.id active.file)
      (hc : s'.controller = { s.controller with slot := none, state := .idle, indicator := .idle })
      (hr : s.Recast s' task .bystander) (hp : s'.processes = s.processes)
      (he : noted = [.showStatus (statusItem false)])
  /-- The run in the slot fails while it has a process. -/
  | failed {task : TaskId} {active : ActiveRun} {process : ProcessId}
      (hslot : s.controller.slot = some active) (hprocess : active.process = some process)
      (ht : s.role task = .attached active.id process)
      (hc : s'.controller = { s.controller with
        slot := some { active with failed := true }
        indicator := .hidden })
      (hr : s.Recast s' task .bystander) (hp : Later s.processes s'.processes)
      (he : noted = [.hideStatus])
  /-- A run fails after it has left the slot, which is empty. -/
  | failedLate {task : TaskId} {run : RunId} {process : ProcessId}
      (hslot : s.controller.slot = none) (ht : s.role task = .attached run process)
      (hc : s'.controller = { s.controller with indicator := .hidden })
      (hr : s.Recast s' task .bystander) (hp : Later s.processes s'.processes)
      (he : noted = [.hideStatus])
  /-- The hook of the run in the slot lets go of it. -/
  | completed {active : ActiveRun} {process : ProcessId} {p : Process}
      (hslot : s.controller.slot = some active) (hprocess : active.process = some process)
      (hget : s.processes[process]? = some p) (hrun : p.run = active.id)
      (hexit : p.exit ≠ .pending)
      (hc : s'.controller = { s.controller with
        slot := none
        state := .idle
        indicator := if active.failed then s.controller.indicator else .idle })
      (hr : s'.role = s.role)
      (hp : s'.processes = s.processes.modify process fun p => { p with hooked := false })
      (he : noted = if active.failed then [] else [.showStatus (statusItem false)])

variable {s s' : System} {a : Action} {noted : List Event}

/-- Runs are never numbered back. -/
theorem Change.nextRun_le (h : Change s a s' noted) :
    s.controller.nextRun ≤ s'.controller.nextRun := by
  cases h with
  | reserved hslot hc hr hp he => rw [hc]; exact Nat.le_succ _
  | quiet hc hr hp he => exact Nat.le_of_eq (by rw [hc])
  | attached hslot hnone ht hc hr hp hrun hhooked he =>
    exact Nat.le_of_eq (by rw [hc])
  | deferred hslot hnone ha hc hr hp he => exact Nat.le_of_eq (by rw [hc])
  | failedEarly hslot hnone ht hc hr hp he => exact Nat.le_of_eq (by rw [hc])
  | abandoned hslot hnone ht hc hr hp he => exact Nat.le_of_eq (by rw [hc])
  | failed hslot hprocess ht hc hr hp he => exact Nat.le_of_eq (by rw [hc])
  | failedLate hslot ht hc hr hp he => exact Nat.le_of_eq (by rw [hc])
  | completed hslot hprocess hget hrun hexit hc hr hp he =>
    exact Nat.le_of_eq (by rw [hc])

/-- The run in the slot after a change is new, or it was there before. -/
theorem Change.slot (h : Change s a s' noted) {rest : ActiveRun}
    (hslot' : s'.controller.slot = some rest) :
    (s.controller.slot = none ∧ rest.id = s.controller.nextRun ∧ rest.stopRequested = false) ∨
      ∃ before, s.controller.slot = some before ∧ before.Later rest := by
  cases h with
  | quiet hc hr hp he => rw [hc] at hslot'; exact .inr ⟨rest, hslot', .refl rest⟩
  | reserved hslot hc hr hp he => rw [hc] at hslot'; cases hslot'; exact .inl ⟨hslot, rfl, rfl⟩
  | attached hslot hnone ht hc hr hp hrun hhooked he =>
    rw [hc] at hslot'
    cases hslot'
    exact .inr ⟨_, hslot, rfl, rfl, id, id⟩
  | deferred hslot hnone ha hc hr hp he =>
    rw [hc] at hslot'
    cases hslot'
    exact .inr ⟨_, hslot, rfl, rfl, fun _ => rfl, id⟩
  | failedEarly hslot hnone ht hc hr hp he => rw [hc] at hslot'; cases hslot'
  | abandoned hslot hnone ht hc hr hp he => rw [hc] at hslot'; cases hslot'
  | failed hslot hprocess ht hc hr hp he =>
    rw [hc] at hslot'
    cases hslot'
    exact .inr ⟨_, hslot, rfl, rfl, id, fun _ => rfl⟩
  | failedLate hslot ht hc hr hp he => rw [hc, hslot] at hslot'; cases hslot'
  | completed hslot hprocess hget hrun hexit hc hr hp he => rw [hc] at hslot'; cases hslot'

/-! ### Changes keep a system consistent -/

/-- Processes stay where they are, with their runs, and a hook that has let go does not come back. -/
theorem Change.process_hook (h : Change s a s' noted) {process : ProcessId} {p : Process}
    (hget : s.processes[process]? = some p) :
    ∃ q, s'.processes[process]? = some q ∧ q.run = p.run ∧
      (p.hooked = false → q.hooked = false) := by
  have hlater : Later s.processes s'.processes →
      ∃ q, s'.processes[process]? = some q ∧ q.run = p.run ∧
        (p.hooked = false → q.hooked = false) := by
    intro hp
    obtain ⟨q, hq, hpq⟩ := hp.get hget
    exact ⟨q, hq, hpq.run, hpq.hooked.trans⟩
  cases h with
  | quiet hc hr hp he => exact hlater hp
  | reserved hslot hc hr hp he => exact hlater (hp ▸ .refl _)
  | attached hslot hnone ht hc hr hp hrun hhooked he =>
    refine ⟨p, ?_, rfl, id⟩
    rw [hp, List.getElem?_append_left (List.getElem?_eq_some_iff.mp hget).1, hget]
  | deferred hslot hnone ha hc hr hp he => exact hlater (hp ▸ .refl _)
  | failedEarly hslot hnone ht hc hr hp he => exact hlater (hp ▸ .refl _)
  | abandoned hslot hnone ht hc hr hp he => exact hlater (hp ▸ .refl _)
  | failed hslot hprocess ht hc hr hp he => exact hlater hp
  | failedLate hslot ht hc hr hp he => exact hlater hp
  | completed hslot hprocess hget' hrun hexit hc hr hp he =>
    rw [hp, List.getElem?_modify, hget]
    refine ⟨_, rfl, ?_⟩
    split
    · exact ⟨rfl, fun _ => rfl⟩
    · exact ⟨rfl, id⟩

/-- A process stays in its place, and with its run. -/
theorem Change.process (h : Change s a s' noted) {process : ProcessId} {p : Process}
    (hget : s.processes[process]? = some p) :
    ∃ q, s'.processes[process]? = some q ∧ q.run = p.run := by
  obtain ⟨q, hq, hrun, _⟩ := h.process_hook hget
  exact ⟨q, hq, hrun⟩

/-- What tasks and processes own stays theirs while tasks leave and processes grow older. -/
theorem Owned.of_within (h : Owned s)
    (hr : ∀ t, s'.role t = s.role t ∨ s'.role t = .bystander)
    (hp : Later s.processes s'.processes)
    (hnext : s'.controller.nextRun = s.controller.nextRun) : Owned s' where
  attached_process := by
    intro task run process ht
    have hold : s.role task = .attached run process := by
      rcases hr task with heq | heq
      · rwa [heq] at ht
      · rw [heq] at ht; cases ht
    obtain ⟨p, hget, hrun⟩ := h.attached_process hold
    obtain ⟨q, hq, hlater⟩ := hp.get hget
    exact ⟨q, hq, hlater.run.trans hrun⟩
  unhooked_exited := by
    intro process q hq hunhooked
    obtain ⟨p, hget, hlater⟩ := hp.get_of_later hq
    have hexit := h.unhooked_exited hget (hlater.hooked.symm.trans hunhooked)
    rwa [hlater.exit hexit]
  process_lt := by
    intro process q hq
    obtain ⟨p, hget, hlater⟩ := hp.get_of_later hq
    rw [hlater.run, hnext]
    exact h.process_lt hget
  process_unique := by
    intro i j q q' hq hq' hrun
    obtain ⟨p, hget, hlater⟩ := hp.get_of_later hq
    obtain ⟨p', hget', hlater'⟩ := hp.get_of_later hq'
    rw [hlater.run, hlater'.run] at hrun
    exact h.process_unique hget hget' hrun
  role_unique := by
    intro t u run ht hu
    have hold : ∀ v, (s'.role v).run? = some run → (s.role v).run? = some run := by
      intro v hv
      rcases hr v with heq | heq
      · rwa [heq] at hv
      · rw [heq] at hv; cases hv
    exact h.role_unique (hold t ht) (hold u hu)

/-- With an empty slot nothing may spawn and no hook may wait. -/
theorem Owned.consistent_of_empty (h : Owned s) (hslot : s.controller.slot = none)
    (hspawning : ∀ t run file, s.role t ≠ .spawning run file)
    (hhooked : ∀ (process : ProcessId) (p : Process), s.processes[process]? = some p →
      p.hooked = false) : Consistent s where
  toOwned := h
  held_last := by intro active hactive; rw [hslot] at hactive; cases hactive
  held_unfailed := by intro active hactive; rw [hslot] at hactive; cases hactive
  held_spawning := by intro active hactive; rw [hslot] at hactive; cases hactive
  held_hooked := by intro active process hactive; rw [hslot] at hactive; cases hactive
  held_process := by intro active process p hactive; rw [hslot] at hactive; cases hactive
  spawning_held := by intro task run file ht; exact absurd ht (hspawning task run file)
  hooked_held := by
    intro process p hget htrue
    rw [hhooked process p hget] at htrue
    cases htrue

/-- With an empty slot nothing spawns. -/
theorem Consistent.not_spawning (h : Consistent s) (hslot : s.controller.slot = none) (t : TaskId)
    (run : RunId) (file : Path) : s.role t ≠ .spawning run file := by
  intro ht
  obtain ⟨active, hactive, _⟩ := h.spawning_held ht
  rw [hslot] at hactive
  cases hactive

/-- The runs that tasks have a part in have been admitted. -/
theorem Consistent.run_lt (h : Consistent s) {task : TaskId} {role : Role} {run : RunId}
    (ht : s.role task = role) (hrun : role.run? = some run) : run < s.controller.nextRun := by
  cases role with
  | bystander => cases hrun
  | spawning other file =>
    cases hrun
    obtain ⟨active, hslot, rfl, _⟩ := h.spawning_held ht
    rw [h.held_last hslot]
    exact Nat.lt_succ_self _
  | attached other process =>
    cases hrun
    obtain ⟨p, hget, rfl⟩ := h.attached_process ht
    exact h.process_lt hget

/-- With an empty slot, or a run in it that has no process, no hook waits. -/
theorem Consistent.not_hooked (h : Consistent s)
    (hslot : ∀ active, s.controller.slot = some active → active.process = none)
    (process : ProcessId) (p : Process) (hget : s.processes[process]? = some p) :
    p.hooked = false := by
  by_contra hne
  obtain ⟨active, hactive, hid⟩ := h.hooked_held hget (by simpa using hne)
  have hheld := h.held_process hactive hget hid.symm
  rw [hslot active hactive] at hheld
  cases hheld

/-- With a run in the slot that has a process nothing spawns. -/
theorem Consistent.not_spawning_of_process (h : Consistent s) {active : ActiveRun}
    {process : ProcessId} (hslot : s.controller.slot = some active)
    (hprocess : active.process = some process) (t : TaskId) (run : RunId) (file : Path) :
    s.role t ≠ .spawning run file := by
  intro ht
  obtain ⟨other, hother, _, _, hnone⟩ := h.spawning_held ht
  rw [hslot] at hother
  cases hother
  rw [hprocess] at hnone
  cases hnone

/-- The slot stays consistent while its run keeps its number, file and process. -/
theorem Consistent.of_kept (h : Consistent s) (f : ActiveRun → ActiveRun) (howned : Owned s')
    (hf : ∀ r, (f r).id = r.id ∧ (f r).file = r.file ∧ (f r).process = r.process)
    (hslot : s'.controller.slot = s.controller.slot.map f)
    (hfailed : ∀ r, s.controller.slot = some r → r.process = none → (f r).failed = r.failed)
    (hnext : s'.controller.nextRun = s.controller.nextRun)
    (hspawning : ∀ t run file, s'.role t = .spawning run file ↔ s.role t = .spawning run file)
    (hp : Later s.processes s'.processes) : Consistent s' := by
  have hold : ∀ {active : ActiveRun}, s'.controller.slot = some active →
      ∃ r, s.controller.slot = some r ∧ f r = active := by
    intro active hactive
    rw [hslot] at hactive
    exact Option.map_eq_some_iff.mp hactive
  have hnew : ∀ {r : ActiveRun}, s.controller.slot = some r →
      s'.controller.slot = some (f r) := by
    intro r hr
    rw [hslot, hr, Option.map_some]
  refine ⟨howned, ?held_last, ?held_unfailed, ?held_spawning, ?held_hooked, ?held_process,
    ?spawning_held, ?hooked_held⟩
  case held_last =>
    intro active hactive
    obtain ⟨r, hr, rfl⟩ := hold hactive
    rw [hnext, (hf r).1]
    exact h.held_last hr
  case held_unfailed =>
    intro active hactive hnone
    obtain ⟨r, hr, rfl⟩ := hold hactive
    rw [(hf r).2.2] at hnone
    rw [hfailed r hr hnone]
    exact h.held_unfailed hr hnone
  case held_spawning =>
    intro active hactive hnone
    obtain ⟨r, hr, rfl⟩ := hold hactive
    rw [(hf r).2.2] at hnone
    obtain ⟨task, ht⟩ := h.held_spawning hr hnone
    refine ⟨task, ?_⟩
    rw [(hf r).1, (hf r).2.1]
    exact (hspawning _ _ _).mpr ht
  case held_hooked =>
    intro active process hactive hprocess
    obtain ⟨r, hr, rfl⟩ := hold hactive
    rw [(hf r).2.2] at hprocess
    obtain ⟨p, hget, hrun, hhooked⟩ := h.held_hooked hr hprocess
    obtain ⟨q, hq, hlater⟩ := hp.get hget
    refine ⟨q, hq, ?_, hlater.hooked.trans hhooked⟩
    rw [hlater.run, hrun, (hf r).1]
  case held_process =>
    intro active process q hactive hq hrun
    obtain ⟨r, hr, rfl⟩ := hold hactive
    obtain ⟨p, hget, hlater⟩ := hp.get_of_later hq
    rw [hlater.run, (hf r).1] at hrun
    rw [(hf r).2.2]
    exact h.held_process hr hget hrun
  case spawning_held =>
    intro task run file ht
    obtain ⟨r, hr, hid, hfile, hnone⟩ := h.spawning_held ((hspawning _ _ _).mp ht)
    exact ⟨f r, hnew hr, (hf r).1.trans hid, (hf r).2.1.trans hfile, (hf r).2.2.trans hnone⟩
  case hooked_held =>
    intro process q hq hhooked
    obtain ⟨p, hget, hlater⟩ := hp.get_of_later hq
    obtain ⟨r, hr, hid⟩ := h.hooked_held hget (hlater.hooked.symm.trans hhooked)
    exact ⟨f r, hnew hr, by rw [(hf r).1, hid, hlater.run]⟩

/-- When the task that spawns for the run in the slot takes another role, nothing spawns any
more. -/
theorem Consistent.not_spawning_of_recast (h : Consistent s) {task : TaskId} {active : ActiveRun}
    {role : Role} (hslot : s.controller.slot = some active)
    (ht : s.role task = .spawning active.id active.file) (hr : s.Recast s' task role)
    (hrole : ∀ run file, role ≠ .spawning run file) (t : TaskId) (run : RunId) (file : Path) :
    s'.role t ≠ .spawning run file := by
  rw [hr t]
  split
  · exact hrole run file
  · next hne =>
    intro hspawning
    obtain ⟨other, hother, hid, _⟩ := h.spawning_held hspawning
    rw [hslot] at hother
    cases hother
    subst hid
    have hrun : (s.role t).run? = some active.id := by rw [hspawning]; rfl
    have hrun' : (s.role task).run? = some active.id := by rw [ht]; rfl
    exact hne (h.role_unique hrun hrun')

/-- Clearing a slot whose run has no process. -/
theorem Consistent.of_cleared (h : Consistent s) {task : TaskId} {active : ActiveRun}
    (hslot : s.controller.slot = some active) (hnone : active.process = none)
    (ht : s.role task = .spawning active.id active.file) (hslot' : s'.controller.slot = none)
    (hnext : s'.controller.nextRun = s.controller.nextRun) (hr : s.Recast s' task .bystander)
    (hp : s'.processes = s.processes) : Consistent s' := by
  have howned : Owned s' := h.toOwned.of_within hr.within (hp ▸ .refl _) hnext
  refine howned.consistent_of_empty hslot'
    (h.not_spawning_of_recast hslot ht hr (by simp)) ?_
  rw [hp]
  apply h.not_hooked
  intro other hother
  rw [hslot] at hother
  cases hother
  exact hnone

/-- A new run takes nothing from what tasks and processes own. -/
theorem Consistent.owned_of_reserved (h : Consistent s) {task : TaskId} {file : Path}
    (hnext : s'.controller.nextRun = s.controller.nextRun + 1)
    (hr : s.Recast s' task (.spawning s.controller.nextRun file))
    (hp : s'.processes = s.processes) : Owned s' where
  attached_process := by
    intro t run process ht
    rw [hp]
    rw [hr t] at ht
    split at ht
    · cases ht
    · exact h.attached_process ht
  unhooked_exited := by rw [hp]; exact h.unhooked_exited
  process_lt := by
    intro process p hget
    rw [hp] at hget
    rw [hnext]
    exact Nat.lt_succ_of_lt (h.process_lt hget)
  process_unique := by rw [hp]; exact h.process_unique
  role_unique := by
    -- the run is new, so no other task can have a role in it
    intro t u run ht hu
    rw [hr t] at ht
    rw [hr u] at hu
    split at ht <;> split at hu
    · next htask hutask => rw [htask, hutask]
    · cases ht
      exact absurd (h.run_lt rfl hu) (Nat.lt_irrefl _)
    · cases hu
      exact absurd (h.run_lt rfl ht) (Nat.lt_irrefl _)
    · exact h.role_unique ht hu

/-- Admitting a run into an empty slot. -/
theorem Consistent.of_reserved (h : Consistent s) {task : TaskId} {file : Path}
    (hslot : s.controller.slot = none)
    (hslot' : s'.controller.slot = some ⟨s.controller.nextRun, file, none, false, false⟩)
    (hnext : s'.controller.nextRun = s.controller.nextRun + 1)
    (hr : s.Recast s' task (.spawning s.controller.nextRun file))
    (hp : s'.processes = s.processes) : Consistent s' := by
  have hunhooked := h.not_hooked (by intro active hactive; rw [hslot] at hactive; cases hactive)
  refine ⟨h.owned_of_reserved hnext hr hp, ?held_last, ?held_unfailed, ?held_spawning, ?held_hooked,
    ?held_process, ?spawning_held, ?hooked_held⟩
  case held_last => intro active hactive; rw [hslot'] at hactive; cases hactive; exact hnext
  case held_unfailed => intro active hactive _; rw [hslot'] at hactive; cases hactive; rfl
  case held_spawning =>
    intro active hactive _
    rw [hslot'] at hactive
    cases hactive
    exact ⟨task, by rw [hr task, if_pos rfl]⟩
  case held_hooked =>
    intro active process hactive hprocess
    rw [hslot'] at hactive
    cases hactive
    cases hprocess
  case held_process =>
    intro active process p hactive hget hrun
    rw [hslot'] at hactive
    cases hactive
    rw [hp] at hget
    exact absurd hrun (Nat.ne_of_lt (h.process_lt hget))
  case spawning_held =>
    intro t run path ht
    rw [hr t] at ht
    split at ht
    · cases ht
      exact ⟨_, hslot', rfl, rfl, rfl⟩
    · exact absurd ht (h.not_spawning hslot t run path)
  case hooked_held =>
    intro process p hget hhooked
    rw [hp] at hget
    rw [hunhooked process p hget] at hhooked
    cases hhooked

/-- A process of a list with a new one at its end is an old one, or the new one. -/
theorem process_of_concat {processes : List Process} {p q : Process} {i : Nat}
    (hq : (processes ++ [p])[i]? = some q) :
    processes[i]? = some q ∨ i = processes.length ∧ q = p := by
  rw [List.getElem?_append] at hq
  split at hq
  · exact .inl hq
  · rename_i hge
    have hlt := (List.getElem?_eq_some_iff.mp hq).1
    rw [List.length_singleton] at hlt
    have hi : i = processes.length := by omega
    subst hi
    exact .inr ⟨rfl, by simpa using hq.symm⟩

/-- While the run in the slot has no process, no process is one of that run's. -/
theorem Consistent.run_ne_of_slot (h : Consistent s) {active : ActiveRun}
    (hslot : s.controller.slot = some active) (hnone : active.process = none) {i : ProcessId}
    {q : Process} (hq : s.processes[i]? = some q) : q.run ≠ active.id := by
  intro heq
  have hheld := h.held_process hslot hq heq
  rw [hnone] at hheld
  cases hheld

/-- The new process belongs to the run in the slot, whose task it is attached to. -/
theorem Consistent.owned_of_attached (h : Consistent s) {task : TaskId} {active : ActiveRun}
    {p : Process} (hslot : s.controller.slot = some active) (hnone : active.process = none)
    (ht : s.role task = .spawning active.id active.file)
    (hnext : s'.controller.nextRun = s.controller.nextRun)
    (hr : s.Recast s' task (.attached active.id s.processes.length))
    (hp : s'.processes = s.processes ++ [p]) (hrun : p.run = active.id)
    (hhooked : p.hooked = true) : Owned s' where
  attached_process := by
    intro t run process hattached
    rw [hp]
    rw [hr t] at hattached
    split at hattached
    · cases hattached
      exact ⟨p, List.getElem?_concat_length .., hrun⟩
    · obtain ⟨q, hq, hqrun⟩ := h.attached_process hattached
      refine ⟨q, ?_, hqrun⟩
      rw [List.getElem?_append_left (List.getElem?_eq_some_iff.mp hq).1, hq]
  unhooked_exited := by
    intro i q hq hfalse
    rw [hp] at hq
    rcases process_of_concat hq with hq | ⟨_, rfl⟩
    · exact h.unhooked_exited hq hfalse
    · rw [hhooked] at hfalse
      cases hfalse
  process_lt := by
    intro i q hq
    rw [hp] at hq
    rw [hnext]
    rcases process_of_concat hq with hq | ⟨_, rfl⟩
    · exact h.process_lt hq
    · rw [hrun, h.held_last hslot]
      exact Nat.lt_succ_self _
  process_unique := by
    intro i j q q' hq hq' heq
    rw [hp] at hq hq'
    rcases process_of_concat hq with hold | ⟨rfl, rfl⟩ <;>
      rcases process_of_concat hq' with hold' | ⟨rfl, rfl⟩
    · exact h.process_unique hold hold' heq
    · exact absurd (heq.trans hrun) (h.run_ne_of_slot hslot hnone hold)
    · exact absurd (heq.symm.trans hrun) (h.run_ne_of_slot hslot hnone hold')
    · rfl
  role_unique := by
    -- the roles are in the same runs as before
    have hsame : ∀ v, (s'.role v).run? = (s.role v).run? := by
      intro v
      rw [hr v]
      split
      · next hv => rw [hv, ht]; rfl
      · rfl
    intro t u run htrun hurun
    rw [hsame] at htrun hurun
    exact h.role_unique htrun hurun

/-- Attaching a process to the run in the slot. -/
theorem Consistent.of_attached (h : Consistent s) {task : TaskId} {active : ActiveRun} {p : Process}
    (hslot : s.controller.slot = some active) (hnone : active.process = none)
    (ht : s.role task = .spawning active.id active.file)
    (hslot' : s'.controller.slot =
      some { active with process := some s.processes.length })
    (hnext : s'.controller.nextRun = s.controller.nextRun)
    (hr : s.Recast s' task (.attached active.id s.processes.length))
    (hp : s'.processes = s.processes ++ [p]) (hrun : p.run = active.id)
    (hhooked : p.hooked = true) : Consistent s' := by
  have hget : s'.processes[s.processes.length]? = some p := by rw [hp, List.getElem?_concat_length]
  have hunhooked := h.not_hooked (by
    intro other hactive
    rw [hslot] at hactive
    cases hactive
    exact hnone)
  have hnotSpawning := h.not_spawning_of_recast hslot ht hr (by simp)
  refine ⟨h.owned_of_attached hslot hnone ht hnext hr hp hrun hhooked, ?held_last, ?held_unfailed,
    ?held_spawning, ?held_hooked, ?held_process, ?spawning_held, ?hooked_held⟩
  case held_last =>
    intro held hheld
    rw [hslot'] at hheld
    cases hheld
    have hlast := h.held_last hslot
    rw [hnext, hlast]
  case held_unfailed => intro held hheld hempty; rw [hslot'] at hheld; cases hheld; cases hempty
  case held_spawning => intro held hheld hempty; rw [hslot'] at hheld; cases hheld; cases hempty
  case held_hooked =>
    intro held process hheld hprocess
    rw [hslot'] at hheld
    cases hheld
    cases hprocess
    exact ⟨p, hget, hrun, hhooked⟩
  case held_process =>
    intro held i q hheld hq hqrun
    rw [hslot'] at hheld
    cases hheld
    rw [hp] at hq
    rcases process_of_concat hq with hq | ⟨rfl, _⟩
    · exact absurd hqrun (h.run_ne_of_slot hslot hnone hq)
    · rfl
  case spawning_held => intro t run file hspawning; exact absurd hspawning (hnotSpawning t run file)
  case hooked_held =>
    intro i q hq htrue
    rw [hp] at hq
    rcases process_of_concat hq with hq | ⟨_, rfl⟩
    · rw [hunhooked i q hq] at htrue
      cases htrue
    · exact ⟨_, hslot', hrun.symm⟩

/-- Where one process was let go of, the others keep their hooks. -/
theorem process_of_released {processes : List Process} {process i : ProcessId} {q : Process}
    (hq : (processes.modify process fun p => { p with hooked := false })[i]? = some q) :
    ∃ p, processes[i]? = some p ∧ q.run = p.run ∧ q.exit = p.exit ∧
      (i = process ∧ q.hooked = false ∨ i ≠ process ∧ q.hooked = p.hooked) := by
  rw [List.getElem?_modify] at hq
  obtain ⟨p, hp, rfl⟩ := Option.map_eq_some_iff.mp hq
  by_cases hi : process = i
  · rw [if_pos hi]
    exact ⟨p, hp, rfl, rfl, .inl ⟨hi.symm, rfl⟩⟩
  · rw [if_neg hi]
    exact ⟨p, hp, rfl, rfl, .inr ⟨Ne.symm hi, rfl⟩⟩

/-- Letting go of a process that has exited takes nothing from anyone. -/
theorem Owned.of_released (h : Owned s) {process : ProcessId} {p : Process}
    (hget : s.processes[process]? = some p) (hexit : p.exit ≠ .pending)
    (hnext : s'.controller.nextRun = s.controller.nextRun) (hr : s'.role = s.role)
    (hp : s'.processes = s.processes.modify process fun p => { p with hooked := false }) :
    Owned s' where
  attached_process := by
    intro t run i hattached
    rw [hr] at hattached
    obtain ⟨q, hq, hqrun⟩ := h.attached_process hattached
    rw [hp, List.getElem?_modify, hq]
    exact ⟨_, rfl, by split <;> exact hqrun⟩
  unhooked_exited := by
    intro i q hq hfalse
    rw [hp] at hq
    obtain ⟨q₀, hq₀, _, hqexit, ⟨rfl, _⟩ | ⟨_, hqhooked⟩⟩ := process_of_released hq
    · rw [hget] at hq₀
      cases hq₀
      rwa [hqexit]
    · rw [hqexit]
      exact h.unhooked_exited hq₀ (hqhooked.symm.trans hfalse)
  process_lt := by
    intro i q hq
    rw [hp] at hq
    obtain ⟨q₀, hq₀, hqrun, _⟩ := process_of_released hq
    rw [hqrun, hnext]
    exact h.process_lt hq₀
  process_unique := by
    intro i j q q' hq hq' heq
    rw [hp] at hq hq'
    obtain ⟨q₀, hq₀, hqrun, _⟩ := process_of_released hq
    obtain ⟨q₁, hq₁, hqrun', _⟩ := process_of_released hq'
    exact h.process_unique hq₀ hq₁ (by rw [← hqrun, ← hqrun', heq])
  role_unique := by rw [hr]; exact h.role_unique

/-- Letting go of the run in the slot, whose process has exited. -/
theorem Consistent.of_completed (h : Consistent s) {active : ActiveRun} {process : ProcessId}
    {p : Process} (hslot : s.controller.slot = some active)
    (hprocess : active.process = some process) (hget : s.processes[process]? = some p)
    (hexit : p.exit ≠ .pending) (hslot' : s'.controller.slot = none)
    (hnext : s'.controller.nextRun = s.controller.nextRun) (hr : s'.role = s.role)
    (hp : s'.processes = s.processes.modify process fun p => { p with hooked := false }) :
    Consistent s' := by
  have howned : Owned s' := h.toOwned.of_released hget hexit hnext hr hp
  refine howned.consistent_of_empty hslot' ?_ ?_
  · rw [hr]
    exact h.not_spawning_of_process hslot hprocess
  · intro i q hq
    rw [hp] at hq
    obtain ⟨q₀, hq₀, _, _, ⟨_, hfalse⟩ | ⟨hi, hqhooked⟩⟩ := process_of_released hq
    · exact hfalse
    · -- the only process with a hook was the one of the run in the slot
      rw [hqhooked]
      by_contra hne
      rw [Bool.not_eq_false] at hne
      obtain ⟨held, hheld, hid⟩ := h.hooked_held hq₀ hne
      rw [hslot] at hheld
      cases hheld
      have heq := h.held_process hslot hq₀ hid.symm
      rw [hprocess] at heq
      cases heq
      exact hi rfl

/-- Every change leaves a consistent system. -/
theorem consistent_of_change (h : Consistent s) (hchange : Change s a s' noted) :
    Consistent s' := by
  cases hchange with
  | quiet hc hr hp he =>
    have howned : Owned s' :=
      h.toOwned.of_within (fun t => (hr t).imp id And.right) hp (by rw [hc])
    refine h.of_kept id howned (fun _ => ⟨rfl, rfl, rfl⟩) (by rw [hc, Option.map_id, id])
      (fun _ _ _ => rfl) (by rw [hc]) (fun t run file => ?_) hp
    rcases hr t with heq | ⟨⟨other, process, hold⟩, hnew⟩
    · rw [heq]
    · rw [hold, hnew]
      simp
  | reserved hslot hc hr hp he => exact h.of_reserved hslot (by rw [hc]) (by rw [hc]) hr hp
  | attached hslot hnone ht hc hr hp hrun hhooked he =>
    exact h.of_attached hslot hnone ht (by rw [hc]) (by rw [hc]) hr hp hrun hhooked
  | @deferred active hslot hnone ha hc hr hp he =>
    have hlater : Later s.processes s'.processes := hp ▸ .refl _
    have howned : Owned s' := h.toOwned.of_within (fun t => .inl (by rw [hr])) hlater (by rw [hc])
    exact h.of_kept (fun r => { r with stopRequested := true }) howned
      (fun _ => ⟨rfl, rfl, rfl⟩) (by rw [hc, hslot, Option.map_some]) (fun _ _ _ => rfl)
      (by rw [hc]) (fun t run file => by rw [hr]) hlater
  | failedEarly hslot hnone ht hc hr hp he =>
    exact h.of_cleared hslot hnone ht (by rw [hc]) (by rw [hc]) hr hp
  | abandoned hslot hnone ht hc hr hp he =>
    exact h.of_cleared hslot hnone ht (by rw [hc]) (by rw [hc]) hr hp
  | @failed task active process hslot hprocess ht hc hr hp he =>
    have howned : Owned s' := h.toOwned.of_within hr.within hp (by rw [hc])
    refine h.of_kept (fun r => { r with failed := true }) howned (fun _ => ⟨rfl, rfl, rfl⟩)
      (by rw [hc, hslot, Option.map_some]) (fun r hheld hnone => ?_) (by rw [hc])
      (fun t run file => ?_) hp
    · rw [hslot] at hheld
      cases hheld
      rw [hprocess] at hnone
      cases hnone
    · rw [hr t]
      split
      · next heq => rw [heq, ht]; simp
      · rfl
  | @failedLate task run process hslot ht hc hr hp he =>
    have howned : Owned s' := h.toOwned.of_within hr.within hp (by rw [hc])
    refine h.of_kept id howned (fun _ => ⟨rfl, rfl, rfl⟩)
      (by rw [hc, Option.map_id, id]) (fun _ _ _ => rfl) (by rw [hc]) (fun t other file => ?_) hp
    rw [hr t]
    split
    · next heq => rw [heq, ht]; simp
    · rfl
  | completed hslot hprocess hget hrun hexit hc hr hp he =>
    exact h.of_completed hslot hprocess hget hexit (by rw [hc]) (by rw [hc]) hr hp

end System

end ModelCheck
