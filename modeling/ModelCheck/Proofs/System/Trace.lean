import ModelCheck.Proofs.System.Role

/-!
# The trace of a task

An action may be a step of a task; the events in the steps of a task are its trace. At each stage a
task waits for a few actions only. Any other step leaves it where it is, and a step that it does not
wait for does nothing at all. A check is decided on in the step in which it begins: it is admitted
as a run on a file, or turned down.
-/

namespace ModelCheck

/-- Whether a task at a stage has begun a check, and has not been dropped. -/
def Stage.isOfCheck : Stage → Bool
  | .offering => true
  | .spawning _ _ => true
  | .reading _ _ _ => true
  | .applying _ _ _ => true
  | .ended (.checked _) => true
  | _ => false

namespace System

/-- The task that an action is a step of. -/
def Action.task? : Action → Option TaskId
  | .begin task => some task
  | .spawned task _ => some task
  | .answer task _ => some task
  | .read task _ => some task
  | .applied task _ => some task
  | .wake task => some task
  | .abort task => some task
  | _ => none

variable {site : Site} {s s' : System} {a : Action} {events : List Event} {task : TaskId}
  {stage : Stage}

/-! ### What is collected along a history -/

/-- What each step contributes, in the course of actions. -/
def collect {α : Type} (f : System → Action → List α) (s : System) : List Action → List α
  | [] => []
  | a :: rest => f s a ++ collect f (s.step a).1 rest

/-- What is collected comes in the order of the actions, each in the system that the actions before have
left. -/
theorem collect_append {α : Type} (f : System → Action → List α) (s : System)
    (before rest : List Action) :
    s.collect f (before ++ rest) = s.collect f before ++ (s.run before).1.collect f rest := by
  induction before generalizing s with
  | nil => rfl
  | cons a before ih => simp [collect, run, ih]

/-- One more action contributes in the system that the others have left. -/
theorem collect_concat {α : Type} (f : System → Action → List α) (actions : List Action)
    (a : Action) : (start site).collect f (actions ++ [a]) =
      (start site).collect f actions ++ f (after site actions) a := by
  rw [collect_append, collect, collect, List.append_nil, after]

/-- The events of a step, if it is a step of a task. -/
def eventsOf (task : TaskId) (s : System) (a : Action) : List Event :=
  if a.task? = some task then (s.step a).2 else []

/-- The trace of a task: the events that its steps have caused in a history. -/
def trace (site : Site) (actions : List Action) (task : TaskId) : List Event :=
  (start site).collect (eventsOf task) actions

/-- A step of the task adds its events to the trace. -/
theorem trace_concat_of_task (actions : List Action) (ha : a.task? = some task) :
    trace site (actions ++ [a]) task = trace site actions task ++ ((after site actions).step a).2 := by
  rw [trace, collect_concat, eventsOf, if_pos ha, trace]

/-- Other steps add nothing to the trace. -/
theorem trace_concat_of_ne (actions : List Action) (ha : a.task? ≠ some task) :
    trace site (actions ++ [a]) task = trace site actions task := by
  rw [trace, collect_concat, eventsOf, if_neg ha, List.append_nil, trace]

/-- A step without events does not show in any trace. -/
theorem trace_concat_of_silent (actions : List Action) (h : ((after site actions).step a).2 = []) :
    trace site (actions ++ [a]) task = trace site actions task := by
  rw [trace, collect_concat, eventsOf, h, ite_self, List.append_nil, trace]

/-- Traces grow at their end. -/
theorem trace_isPrefix (site : Site) (before rest : List Action) (task : TaskId) :
    trace site before task <+: trace site (before ++ rest) task := by
  rw [trace, trace, collect_append]
  exact List.prefix_append _ _

/-- Every event by which a trace grows belongs to one step of the task. -/
theorem exists_step_of_mem_trace_append {before rest : List Action} {e : Event}
    (h : e ∈ trace site (before ++ rest) task) :
    e ∈ trace site before task ∨ ∃ mid a tail, rest = mid ++ a :: tail ∧ a.task? = some task ∧
      e ∈ ((after site (before ++ mid)).step a).2 := by
  induction rest using List.reverseRecOn with
  | nil => rw [List.append_nil] at h; exact .inl h
  | append_singleton rest a ih =>
    have hearlier : e ∈ trace site (before ++ rest) task → e ∈ trace site before task ∨
        ∃ mid b tail, rest ++ [a] = mid ++ b :: tail ∧ b.task? = some task ∧
          e ∈ ((after site (before ++ mid)).step b).2 := by
      intro h
      refine (ih h).imp_right ?_
      rintro ⟨mid, b, tail, rfl, hb, hmem⟩
      exact ⟨mid, b, tail ++ [a], by simp, hb, hmem⟩
    rw [← List.append_assoc] at h
    by_cases ha : a.task? = some task
    · rw [trace_concat_of_task _ ha, List.mem_append] at h
      rcases h with h | h
      · exact hearlier h
      · exact .inr ⟨rest, a, [], rfl, ha, h⟩
    · rw [trace_concat_of_ne _ ha] at h
      exact hearlier h

/-- Every event of a trace belongs to one step of the task. -/
theorem exists_step_of_mem_trace {actions : List Action} {e : Event}
    (h : e ∈ trace site actions task) :
    ∃ before a rest, actions = before ++ a :: rest ∧ a.task? = some task ∧
      e ∈ ((after site before).step a).2 := by
  have hgrown : e ∈ trace site ([] ++ actions) task := h
  exact (exists_step_of_mem_trace_append hgrown).resolve_left List.not_mem_nil

/-! ### What a task waits for -/

/-- The actions that a task at a stage waits for. Any task that has not ended may be dropped. -/
inductive Awaits (task : TaskId) : Stage → Action → Prop
  | begin (r : Request) : Awaits task (.created r) (.begin task)
  | answer (accepted : Bool) : Awaits task .offering (.answer task accepted)
  | spawned (run : RunId) (file : Path) (result : Spawned) :
      Awaits task (.spawning run file) (.spawned task result)
  | read (run : RunId) (process : ProcessId) (reader : Output.Reader) (now : Moment) :
      Awaits task (.reading run process reader) (.read task now)
  | applied (run : RunId) (process : ProcessId) (total : Nat) (failure : Option Failure) :
      Awaits task (.applying run process total) (.applied task failure)
  | wake : Awaits task .waiting (.wake task)
  | abort {stage : Stage} (h : ∀ result, stage ≠ .ended result) : Awaits task stage (.abort task)

/-- What a task waits for is a step of the task. -/
theorem Awaits.task_eq (h : Awaits task stage a) : a.task? = some task := by
  cases h <;> rfl

/-- A step that a task does not wait for does nothing. -/
theorem awaits_or_refused (ht : s.tasks[task]? = some stage) (ha : a.task? = some task) :
    Awaits task stage a ∨ s.step a = (s, []) := by
  cases a with
  | begin t =>
    cases ha
    cases stage with
    | created r => exact .inl (.begin r)
    | _ => exact .inr (by simp only [step, ht])
  | spawned t result =>
    cases ha
    cases stage with
    | spawning run file => exact .inl (.spawned run file result)
    | _ => exact .inr (by simp only [step, ht])
  | answer t accepted =>
    cases ha
    cases stage with
    | offering => exact .inl (.answer accepted)
    | _ => exact .inr (by simp only [step, ht])
  | read t now =>
    cases ha
    cases stage with
    | reading run process reader => exact .inl (.read run process reader now)
    | _ => exact .inr (by simp only [step, ht])
  | applied t failure =>
    cases ha
    cases stage with
    | applying run process total => exact .inl (.applied run process total failure)
    | _ => exact .inr (by simp only [step, ht])
  | wake t =>
    cases ha
    cases stage with
    | waiting => exact .inl .wake
    | _ => exact .inr (by simp only [step, ht])
  | abort t =>
    cases ha
    cases stage with
    | ended result => exact .inr (by simp only [step, abort, ht])
    | _ => exact .inl (.abort fun _ h => by cases h)
  | _ => cases ha

/-- A task that has ended takes no step. -/
theorem step_of_ended {result : TaskResult} (ht : s.tasks[task]? = some (.ended result))
    (ha : a.task? = some task) : s.step a = (s, []) := by
  rcases awaits_or_refused ht ha with hawaits | hrefused
  · cases hawaits with
    | abort h => exact absurd rfl (h result)
  · exact hrefused

/-! ### What a step does to the tasks -/

/-- A step does nothing, or it is not a step of a task and may create one, or it moves its task to a
stage at which that has begun. Only a request for a check leads to the stages of a check. -/
inductive Moves (s : System) (a : Action) (s' : System) (events : List Event) : Prop
  | refused (hs : s' = s) (he : events = [])
  | outside (ha : a.task? = none) (htasks : s'.tasks = s.tasks)
  | created (ha : a.task? = none) (r : Request) (htasks : s'.tasks = s.tasks ++ [.created r])
  | moved {t : TaskId} {old stage : Stage} (ha : a.task? = some t) (ht : s.tasks[t]? = some old)
      (htasks : s'.tasks = s.tasks.set t stage) (hbegun : ∀ r, stage ≠ .created r)
      (hcheck : stage.isOfCheck = true →
        old.isOfCheck = true ∨ a = .begin t ∧ ∃ r : Request, old = .created r ∧ r.Checks)

/-- Every transition moves the tasks in one of these ways. -/
theorem Transition.moves (htransition : Transition s a s' events) : Moves s a s' events := by
  cases htransition with
  | refused => exact .refused rfl rfl
  | opened path => exact .outside rfl rfl
  | closed => exact .outside rfl rfl
  | requested r => exact .created rfl r rfl
  | displayed => exact .outside rfl rfl
  | stopped => exact .outside rfl (stop_tasks s)
  | taskDisplayed h => exact .moved rfl h rfl nofun nofun
  | @taskStopped t h =>
    have htasks : (s.stop.1.setTask t (.ended (.stopped s.stop.2.2))).tasks =
        s.tasks.set t (.ended (.stopped s.stop.2.2)) := by rw [setTask_tasks, stop_tasks]
    exact .moved rfl h htasks nofun nofun
  | waited h => exact .moved rfl h rfl nofun nofun
  | woke h hidle => exact .moved rfl h rfl nofun nofun
  | offered h hr hm => exact .moved rfl h rfl nofun fun _ => .inr ⟨rfl, _, rfl, hr⟩
  | answered h accepted => exact .moved rfl h rfl nofun fun _ => .inl rfl
  | rejected h hr hm hreason => exact .moved rfl h rfl nofun fun _ => .inr ⟨rfl, _, rfl, hr⟩
  | reserved h hr hm => exact .moved rfl h rfl nofun fun _ => .inr ⟨rfl, _, rfl, hr⟩
  | attached h pid termination => exact .moved rfl h (attach_tasks ..) nofun fun _ => .inl rfl
  | spawnFailed h cause => exact .moved rfl h (failCheck_tasks ..) nofun fun _ => .inl rfl
  | readOn h hp hfeed hopen => exact .moved rfl h rfl nofun fun _ => .inl rfl
  | readEnd h hp hfeed hended => exact .moved rfl h rfl nofun fun _ => .inl rfl
  | readFailed h hp hfeed => exact .moved rfl h (failCheck_tasks ..) nofun fun _ => .inl rfl
  | applied h => exact .moved rfl h rfl nofun fun _ => .inl rfl
  | applyFailed h cause => exact .moved rfl h (failCheck_tasks ..) nofun fun _ => .inl rfl
  | dropped h hstage => exact .moved rfl h rfl nofun nofun
  | abandoned h => exact .moved rfl h rfl nofun nofun
  | readingDropped h => exact .moved rfl h rfl nofun nofun
  | applyingDropped h => exact .moved rfl h rfl nofun nofun
  | wrote process chunk => exact .outside rfl rfl
  | outputEnded process => exact .outside rfl rfl
  | exited process exit => exact .outside rfl rfl
  | observed hp hhooked hexit => exact .outside rfl rfl

/-- So does every step. -/
theorem moves_step (s : System) (a : Action) : Moves s a (s.step a).1 (s.step a).2 :=
  (transition_step s a).moves

/-- The steps of others leave a task where it is. -/
theorem task_of_ne (ha : a.task? ≠ some task) (ht : s.tasks[task]? = some stage) :
    (s.step a).1.tasks[task]? = some stage := by
  cases moves_step s a with
  | refused hs he => rw [hs, ht]
  | outside hnone htasks => rw [htasks, ht]
  | created hnone r htasks =>
    rw [htasks, List.getElem?_append_left (List.getElem?_eq_some_iff.mp ht).1, ht]
  | @moved t old stage' hmoved hold htasks hbegun hcheck =>
    have hne : t ≠ task := by
      rintro rfl
      exact ha hmoved
    rw [htasks, List.getElem?_set_ne hne, ht]

/-- A task that has begun does not go back to where it was created. -/
theorem begun_step (ht : s.tasks[task]? = some stage) (hbegun : ∀ r, stage ≠ .created r)
    (a : Action) :
    ∃ next, (s.step a).1.tasks[task]? = some next ∧ ∀ r, next ≠ .created r := by
  by_cases ha : a.task? = some task
  · cases moves_step s a with
    | refused hs he => exact ⟨stage, by rw [hs, ht], hbegun⟩
    | outside hnone htasks => rw [hnone] at ha; cases ha
    | created hnone r htasks => rw [hnone] at ha; cases ha
    | @moved t old next hmoved hold htasks hnext hcheck =>
      rw [hmoved] at ha
      cases ha
      refine ⟨next, ?_, hnext⟩
      rw [htasks, List.getElem?_set_self (List.getElem?_eq_some_iff.mp hold).1]
  · exact ⟨stage, task_of_ne ha ht, hbegun⟩

/-- What holds of a task at a point of a history holds of it from there on, if it is kept by the
steps of others, by the task's own steps, and by those that it does not wait for. -/
theorem task_induction {P : List Action → Stage → Prop}
    (hother : ∀ {actions : List Action} {a : Action} {stage : Stage},
      (after site actions).tasks[task]? = some stage → a.task? ≠ some task → P actions stage →
      P (actions ++ [a]) stage)
    (hrefused : ∀ {actions : List Action} {a : Action} {stage : Stage},
      (after site actions).step a = (after site actions, []) → a.task? = some task →
      P actions stage → P (actions ++ [a]) stage)
    (hown : ∀ {actions : List Action} {a : Action} {stage : Stage},
      (after site actions).tasks[task]? = some stage → Awaits task stage a → P actions stage →
      ∃ next, ((after site actions).step a).1.tasks[task]? = some next ∧ P (actions ++ [a]) next)
    {before : List Action} (ht : (after site before).tasks[task]? = some stage) (h : P before stage)
    (rest : List Action) :
    ∃ now, (after site (before ++ rest)).tasks[task]? = some now ∧ P (before ++ rest) now := by
  induction rest using List.reverseRecOn with
  | nil => rw [List.append_nil]; exact ⟨stage, ht, h⟩
  | append_singleton rest a ih =>
    obtain ⟨now, hnow, hP⟩ := ih
    rw [← List.append_assoc, after_concat]
    by_cases ha : a.task? = some task
    · rcases awaits_or_refused hnow ha with hawaits | hstep
      · exact hown hnow hawaits hP
      · exact ⟨now, by rw [hstep, hnow], hrefused hstep ha hP⟩
    · exact ⟨now, task_of_ne ha hnow, hother hnow ha hP⟩

/-- A task that has ended stays so, and its trace is complete. -/
theorem ended_after {before : List Action} {result : TaskResult}
    (h : (after site before).tasks[task]? = some (.ended result)) (rest : List Action) :
    (after site (before ++ rest)).tasks[task]? = some (.ended result) ∧
      trace site (before ++ rest) task = trace site before task := by
  have hthere := task_induction
    (P := fun actions stage => stage = .ended result ∧
      trace site actions task = trace site before task)
    (fun _ ha h => ⟨h.1, (trace_concat_of_ne _ ha).trans h.2⟩)
    (fun hstep _ h => ⟨h.1, (trace_concat_of_silent _ (by rw [hstep])).trans h.2⟩)
    (fun _ hawaits h => ?own) h ⟨rfl, rfl⟩ rest
  case own =>
    -- an ended task waits for nothing
    obtain ⟨rfl, _⟩ := h
    cases hawaits with
    | abort hne => exact absurd rfl (hne result)
  obtain ⟨now, hnow, rfl, htrace⟩ := hthere
  exact ⟨hnow, htrace⟩

/-- A task that has not begun has no trace. -/
theorem trace_of_unbegun (actions : List Action)
    (h : ∀ stage, (after site actions).tasks[task]? = some stage → ∃ r, stage = .created r) :
    trace site actions task = [] := by
  induction actions using List.reverseRecOn with
  | nil => rfl
  | append_singleton actions a ih =>
    rw [after_concat] at h
    cases moves_step (after site actions) a with
    | refused hs he =>
      rw [hs] at h
      rw [trace_concat_of_silent _ he, ih h]
    | outside hnone htasks =>
      rw [htasks] at h
      rw [trace_concat_of_ne _ (by rw [hnone]; nofun), ih h]
    | created hnone r htasks =>
      rw [trace_concat_of_ne _ (by rw [hnone]; nofun)]
      refine ih fun stage ht => h stage ?_
      rw [htasks, List.getElem?_append_left (List.getElem?_eq_some_iff.mp ht).1, ht]
    | @moved t old stage hmoved hold htasks hbegun hcheck =>
      by_cases heq : t = task
      · subst heq
        have hset : ((after site actions).step a).1.tasks[t]? = some stage := by
          rw [htasks, List.getElem?_set_self (List.getElem?_eq_some_iff.mp hold).1]
        obtain ⟨r, hr⟩ := h stage hset
        exact absurd hr (hbegun r)
      · rw [trace_concat_of_ne _ (by rw [hmoved]; exact fun h => heq (Option.some.inj h))]
        refine ih fun other hother => h other ?_
        rw [htasks, List.getElem?_set_ne heq, hother]

/-- A task that has begun a check did so in one step of the history, being asked for it. -/
theorem exists_begin (actions : List Action) (ht : (after site actions).tasks[task]? = some stage)
    (hstage : stage.isOfCheck = true) :
    ∃ (before rest : List Action) (r : Request), actions = before ++ .begin task :: rest ∧
      (after site before).tasks[task]? = some (.created r) ∧ r.Checks := by
  induction actions using List.reverseRecOn generalizing stage with
  | nil => cases ht
  | append_singleton actions a ih =>
    have hmore : ∀ {old : Stage}, (after site actions).tasks[task]? = some old →
        old.isOfCheck = true → ∃ (before rest : List Action) (r : Request),
          actions ++ [a] = before ++ .begin task :: rest ∧
          (after site before).tasks[task]? = some (.created r) ∧ r.Checks := by
      intro old hold hcheck
      obtain ⟨before, rest, r, rfl, hcreated, hr⟩ := ih hold hcheck
      exact ⟨before, rest ++ [a], r, by simp, hcreated, hr⟩
    rw [after_concat] at ht
    cases moves_step (after site actions) a with
    | refused hs he => rw [hs] at ht; exact hmore ht hstage
    | outside hnone htasks => rw [htasks] at ht; exact hmore ht hstage
    | created hnone r htasks =>
      rw [htasks, List.getElem?_append] at ht
      split at ht
      · exact hmore ht hstage
      · rw [List.getElem?_singleton] at ht
        split at ht <;> cases ht
        cases hstage
    | @moved t old stage' hmoved hold htasks hbegun hcheck =>
      rcases task_of_set hold htasks ht with ⟨rfl, rfl⟩ | ⟨hother, _⟩
      · rcases hcheck hstage with hcheck | ⟨rfl, r, rfl, hr⟩
        · exact hmore hold hcheck
        · exact ⟨actions, [], r, rfl, hold, hr⟩
      · exact hmore hother hstage

end System

end ModelCheck
