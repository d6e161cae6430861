import ModelCheck.Proofs.System.History

/-!
# Roles and ages

A task has a role in a run: its process is being spawned for the task, or the task is attached to
the process. A process grows older: its output and its exit change, but not its run or its number,
nor its hook before that lets go. What a step does is told in these two terms.
-/

namespace ModelCheck

namespace System

/-- The part of a task in a run. -/
inductive Role where
  | bystander
  | spawning (run : RunId) (file : Path)
  | attached (run : RunId) (process : ProcessId)
deriving DecidableEq, Repr

/-- The run that a role belongs to. -/
def Role.run? : Role → Option RunId
  | .bystander => none
  | .spawning run _ => some run
  | .attached run _ => some run

end System

/-- The role of a task at a stage. -/
def Stage.role : Stage → System.Role
  | .created _ => .bystander
  | .offering => .bystander
  | .spawning run file => .spawning run file
  | .reading run process _ => .attached run process
  | .applying run process _ => .attached run process
  | .waiting => .bystander
  | .ended _ => .bystander

namespace System

/-- The role of a task; a task that does not exist has none. -/
def role (s : System) (task : TaskId) : Role := s.tasks[task]?.elim .bystander Stage.role

/-- A task has the role of the stage that it is at. -/
theorem role_of_task {s : System} {task : TaskId} {stage : Stage}
    (h : s.tasks[task]? = some stage) : s.role task = stage.role := by
  rw [role, h, Option.elim_some]

/-- Only a task that waits for its process is spawning. -/
theorem role_eq_spawning_iff {s : System} {task : TaskId} {run : RunId} {file : Path} :
    s.role task = .spawning run file ↔ s.tasks[task]? = some (.spawning run file) := by
  constructor
  · intro h
    cases ht : s.tasks[task]? with
    | none => simp [role, ht] at h
    | some stage =>
      rw [role_of_task ht] at h
      cases stage <;> simp_all [Stage.role]
  · intro h
    exact role_of_task h

/-- After a task was put at a stage, a task is at it that is this one, or it is where it was. -/
theorem task_of_set {s s' : System} {task other : TaskId} {old stage now : Stage}
    (h : s.tasks[task]? = some old) (htasks : s'.tasks = s.tasks.set task stage)
    (hnow : s'.tasks[other]? = some now) :
    (task = other ∧ stage = now) ∨ s.tasks[other]? = some now ∧ task ≠ other := by
  rw [htasks] at hnow
  by_cases heq : task = other
  · subst heq
    rw [List.getElem?_set_self (List.getElem?_eq_some_iff.mp h).1] at hnow
    exact .inl ⟨rfl, Option.some.inj hnow⟩
  · rw [List.getElem?_set_ne heq] at hnow
    exact .inr ⟨hnow, heq⟩

/-- Gives a task a role and leaves the others theirs. -/
def Recast (s s' : System) (task : TaskId) (role : Role) : Prop :=
  ∀ other, s'.role other = if other = task then role else s.role other

/-- Putting a task at a stage gives it the role of that stage. -/
theorem recast_of_set {s s' : System} {task : TaskId} {old stage : Stage} {role : Role}
    (h : s.tasks[task]? = some old) (htasks : s'.tasks = s.tasks.set task stage)
    (hrole : stage.role = role) : s.Recast s' task role := by
  intro other
  subst hrole
  have hlt : task < s.tasks.length := (List.getElem?_eq_some_iff.mp h).1
  rw [System.role, System.role, htasks]
  by_cases hother : other = task
  · rw [if_pos hother, hother, List.getElem?_set_self hlt, Option.elim_some]
  · rw [if_neg hother, List.getElem?_set_ne (Ne.symm hother)]

/-- A task that leaves its run takes no role, and the others keep theirs. -/
theorem Recast.within {s s' : System} {task : TaskId} (hr : s.Recast s' task .bystander)
    (t : TaskId) : s'.role t = s.role t ∨ s'.role t = .bystander := by
  rw [hr t]
  split
  · exact .inr rfl
  · exact .inl rfl

/-! ### Processes that grow older -/

end System

/-- What no step but its hook's takes from a process: its run, its number, its hook, and its exit
once that is reported. -/
structure Process.Later (p q : Process) : Prop where
  run : q.run = p.run
  pid : q.pid = p.pid
  hooked : q.hooked = p.hooked
  exit : p.exit ≠ .pending → q.exit = p.exit

namespace Process.Later

variable {p q r : Process}

/-- A process is a later state of itself. -/
theorem refl (p : Process) : p.Later p := ⟨rfl, rfl, rfl, fun _ => rfl⟩

/-- Later states of later states are later states. -/
theorem trans (h₁ : p.Later q) (h₂ : q.Later r) : p.Later r where
  run := h₂.run.trans h₁.run
  pid := h₂.pid.trans h₁.pid
  hooked := h₂.hooked.trans h₁.hooked
  exit := fun h => by
    have hq := h₁.exit h
    rw [h₂.exit (by rwa [hq]), hq]

/-- Reporting an exit keeps one that was reported before. -/
theorem report (exit : ProcessExit) (p : Process) : p.Later (p.report exit) := by
  unfold Process.report
  cases h : p.exit with
  | pending => exact ⟨rfl, rfl, rfl, fun hne => absurd h hne⟩
  | reported _ => exact refl p

/-- A process whose termination has been requested is a later state. -/
theorem terminate (p : Process) : p.Later p.terminate := by
  have hclosed : p.Later { p with writable := false } := ⟨rfl, rfl, rfl, fun _ => rfl⟩
  unfold Process.terminate
  split
  · exact hclosed.trans (report _ _)
  · exact refl p
  · exact refl p

/-- A process with more output is a later state. -/
theorem write (chunk : Output.Chunk) (p : Process) : p.Later (p.write chunk) := by
  unfold Process.write
  split
  · exact ⟨rfl, rfl, rfl, fun _ => rfl⟩
  · exact refl p

end Process.Later

namespace System

/-- The processes of a list are, place by place, later states of those of another. -/
def Later (before rest : List Process) : Prop :=
  ∀ i : ProcessId, before[i]?.elim (rest[i]? = none) fun p : Process =>
    ∃ q, rest[i]? = some q ∧ p.Later q

namespace Later

variable {l l' l'' : List Process} {i : ProcessId} {p q : Process}

/-- Processes are later states of themselves. -/
theorem refl (l : List Process) : Later l l := by
  intro i
  cases h : l[i]? with
  | none => rfl
  | some p => exact ⟨p, rfl, .refl p⟩

/-- A process has its later state in the same place. -/
theorem get (h : Later l l') (hp : l[i]? = some p) : ∃ q, l'[i]? = some q ∧ p.Later q := by
  have hi := h i
  rwa [hp] at hi

/-- A later state has its process in the same place. -/
theorem get_of_later (h : Later l l') (hq : l'[i]? = some q) :
    ∃ p, l[i]? = some p ∧ p.Later q := by
  have hi := h i
  cases hp : l[i]? with
  | none => rw [hp, Option.elim_none, hq] at hi; cases hi
  | some p =>
    rw [hp] at hi
    obtain ⟨q', hq', hlater⟩ := hi
    rw [hq] at hq'
    cases hq'
    exact ⟨p, rfl, hlater⟩

/-- Later states of later states are later states, place by place. -/
theorem trans (h₁ : Later l l') (h₂ : Later l' l'') : Later l l'' := by
  intro i
  cases hp : l[i]? with
  | none =>
    have hi := h₁ i
    rw [hp, Option.elim_none] at hi
    have hi' := h₂ i
    rwa [hi] at hi'
  | some p =>
    obtain ⟨q, hq, hpq⟩ := h₁.get hp
    obtain ⟨r, hr, hqr⟩ := h₂.get hq
    exact ⟨r, hr, hpq.trans hqr⟩

/-- Changing one process into a later state of it. -/
theorem modify {f : Process → Process} (hf : ∀ p : Process, p.Later (f p)) (l : List Process)
    (i : ProcessId) : Later l (l.modify i f) := by
  intro j
  rw [List.getElem?_modify]
  cases hp : l[j]? with
  | none => rfl
  | some p =>
    by_cases hij : i = j
    · exact ⟨f p, by simp [hij], hf p⟩
    · exact ⟨p, by simp [hij], .refl p⟩

end Later

/-- Processes whose termination has been requested are later states. -/
theorem later_terminateAll (process : Option ProcessId) (s : System) :
    Later s.processes (s.terminateAll process).processes := by
  cases process with
  | none => exact .refl _
  | some p => exact .modify Process.Later.terminate _ _

end System

end ModelCheck
