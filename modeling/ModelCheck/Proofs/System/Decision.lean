import ModelCheck.Proofs.System.SingleRun
import ModelCheck.Proofs.System.Trace

/-!
# What becomes of a request

A request to check is decided on in the step in which its task begins: the check is admitted as a
run on the active document's file, or it is turned down for one of three reasons. Whatever a task of
a check does later, it has begun in such a step.
-/

namespace ModelCheck

/-- What the user is told of a request that is turned down. -/
def Rejection.notice : Rejection → Event
  | .alreadyRunning => .offer Rejection.alreadyRunning.message showRunningAction
  | .noActiveEditor => .warn Rejection.noActiveEditor.message
  | .notTlaFile => .warn Rejection.notTlaFile.message

/-- Where a task is once its request has been turned down: it ends, unless there is an offer to be
answered. -/
def Rejection.stage : Rejection → Stage
  | .alreadyRunning => .offering
  | .noActiveEditor => .ended (.checked (.rejected .noActiveEditor))
  | .notTlaFile => .ended (.checked (.rejected .notTlaFile))

namespace System

variable {site : Site} {s : System} {a : Action} {task : TaskId} {run : RunId} {file : Path}
  {reason : Rejection}

/-- A task has been asked for a check that it has not begun. -/
def Requested (s : System) (task : TaskId) : Prop :=
  ∃ r : Request, s.tasks[task]? = some (.created r) ∧ r.Checks

/-- The check that a task is to begin is admitted, as a run on a file. -/
structure Admits (s : System) (task : TaskId) (run : RunId) (file : Path) : Prop where
  requested : s.Requested task
  model : s.controller.modelToCheck s.site.workingDirectory s.editor = .ok file
  run : run = s.controller.nextRun

/-- The check that a task is to begin is turned down. -/
structure TurnsDown (s : System) (task : TaskId) (reason : Rejection) : Prop where
  requested : s.Requested task
  model : s.controller.modelToCheck s.site.workingDirectory s.editor = .error reason

/-- Every request that is begun is admitted or turned down. -/
theorem Requested.admits_or_turnsDown (h : s.Requested task) :
    (∃ run file, s.Admits task run file) ∨ ∃ reason, s.TurnsDown task reason := by
  cases hm : s.controller.modelToCheck s.site.workingDirectory s.editor with
  | ok file => exact .inl ⟨s.controller.nextRun, file, h, hm, rfl⟩
  | error reason => exact .inr ⟨reason, h, hm⟩

/-- Both ways of asking for a check begin it alike. -/
theorem Requested.step (h : s.Requested task) : s.step (.begin task) = s.beginCheck task := by
  obtain ⟨r, ht, rfl | rfl⟩ := h <;> simp only [System.step, ht, beginTask]

/-- A check that is admitted reserves its run and asks for the process. -/
theorem Admits.step (h : s.Admits task run file) :
    s.step (.begin task) = ((s.setController (s.controller.reserve file).1).setTask task
        (.spawning run file),
      [.showStatus (statusItem true), .spawn run checkerTool file checkerArguments]) := by
  rw [h.requested.step, beginCheck, h.model, h.run]
  rfl

/-- A request that is turned down moves its own task only, and the user is told why. -/
theorem TurnsDown.step (h : s.TurnsDown task reason) :
    s.step (.begin task) = (s.setTask task reason.stage, [reason.notice]) := by
  rw [h.requested.step, beginCheck, h.model]
  cases reason <;> rfl

/-- A task whose check is admitted waits for its process. -/
theorem Admits.spawning (h : s.Admits task run file) :
    (s.step (.begin task)).1.tasks[task]? = some (.spawning run file) := by
  obtain ⟨r, ht, _⟩ := h.requested
  rw [h.step]
  exact task_setTask (by exact ht) _

/-- A task whose request is turned down is where the reason puts it. -/
theorem TurnsDown.stage (h : s.TurnsDown task reason) :
    (s.step (.begin task)).1.tasks[task]? = some reason.stage := by
  obtain ⟨r, ht, _⟩ := h.requested
  rw [h.step]
  exact task_setTask ht _

/-- In a history a task began its check, and was admitted as a run on a file. -/
def Admitted (site : Site) (actions : List Action) (task : TaskId) (run : RunId) (file : Path) :
    Prop :=
  ∃ before rest, actions = before ++ .begin task :: rest ∧ (after site before).Admits task run file

/-- In a history a task began its check, and was turned down. -/
def TurnedDown (site : Site) (actions : List Action) (task : TaskId) (reason : Rejection) : Prop :=
  ∃ before rest, actions = before ++ .begin task :: rest ∧
    (after site before).TurnsDown task reason

/-- What was admitted stays so. -/
theorem Admitted.append {actions : List Action} (h : Admitted site actions task run file)
    (more : List Action) : Admitted site (actions ++ more) task run file := by
  obtain ⟨before, rest, rfl, hadmits⟩ := h
  exact ⟨before, rest ++ more, by simp, hadmits⟩

/-- A task that has begun a check was admitted, or turned down. -/
theorem admitted_or_turnedDown (actions : List Action) {stage : Stage}
    (ht : (after site actions).tasks[task]? = some stage) (hstage : stage.isOfCheck = true) :
    (∃ run file, Admitted site actions task run file) ∨ ∃ reason, TurnedDown site actions task reason := by
  obtain ⟨before, rest, r, rfl, hcreated, hr⟩ := exists_begin actions ht hstage
  have hrequested : (after site before).Requested task := ⟨r, hcreated, hr⟩
  rcases hrequested.admits_or_turnsDown with ⟨run, file, hadmits⟩ | ⟨reason, hdown⟩
  · exact .inl ⟨run, file, before, rest, rfl, hadmits⟩
  · exact .inr ⟨reason, before, rest, rfl, hdown⟩

/-! ### The task of a run -/

/-- A task that was admitted has begun, and more runs are numbered behind its own. -/
theorem Admitted.begun {actions : List Action} (h : Admitted site actions task run file) :
    (∃ stage, (after site actions).tasks[task]? = some stage ∧ ∀ r, stage ≠ .created r) ∧
      run < (after site actions).controller.nextRun := by
  obtain ⟨before, rest, rfl, hadmits⟩ := h
  induction rest using List.reverseRecOn with
  | nil =>
    rw [after_concat]
    refine ⟨⟨.spawning run file, hadmits.spawning, nofun⟩, ?_⟩
    rw [hadmits.step, hadmits.run]
    exact Nat.lt_succ_self _
  | append_singleton rest a ih =>
    obtain ⟨⟨stage, ht, hbegun⟩, hlt⟩ := ih
    rw [← List.cons_append, ← List.append_assoc, after_concat]
    refine ⟨begun_step ht hbegun a, Nat.lt_of_lt_of_le hlt ?_⟩
    exact ((consistent_after site _).change_step a).nextRun_le

/-- Of two requests the later one is admitted for another task, as another run. -/
theorem Admits.ne_of_later {before mid : List Action} {task' : TaskId} {run' : RunId} {file' : Path}
    (h : (after site before).Admits task run file)
    (h' : (after site (before ++ .begin task :: mid)).Admits task' run' file') :
    task ≠ task' ∧ run ≠ run' := by
  have hadmitted : Admitted site (before ++ .begin task :: mid) task run file :=
    ⟨before, mid, rfl, h⟩
  obtain ⟨⟨stage, ht, hbegun⟩, hlt⟩ := hadmitted.begun
  constructor
  · rintro rfl
    obtain ⟨r, hcreated, _⟩ := h'.requested
    rw [ht] at hcreated
    exact hbegun r (Option.some.inj hcreated)
  · rw [h'.run]
    exact Nat.ne_of_lt hlt

/-- A request is admitted as one run on one file. -/
theorem Admits.eq {run' : RunId} {file' : Path} (h : s.Admits task run file)
    (h' : s.Admits task run' file') : run = run' ∧ file = file' := by
  have hmodel := h.model.symm.trans h'.model
  exact ⟨h.run.trans h'.run.symm, Except.ok.inj hmodel⟩

/-- Two places in one list are the same, or one comes before the other. -/
theorem places {α : Type} {before before' rest rest' : List α} {x y : α}
    (h : before ++ x :: rest = before' ++ y :: rest') :
    (before = before' ∧ x = y) ∨ (∃ mid, before' = before ++ x :: mid) ∨
      ∃ mid, before = before' ++ y :: mid := by
  rcases List.append_eq_append_iff.mp h with ⟨mid, rfl, hmid⟩ | ⟨mid, rfl, hmid⟩
  · cases mid with
    | nil => cases hmid; exact .inl ⟨(List.append_nil _).symm, rfl⟩
    | cons z mid => cases hmid; exact .inr (.inl ⟨mid, rfl⟩)
  · cases mid with
    | nil => cases hmid; exact .inl ⟨List.append_nil _, rfl⟩
    | cons z mid => cases hmid; exact .inr (.inr ⟨mid, rfl⟩)

/-- A run has one task and one file, and a task has one run. -/
theorem Admitted.unique {actions : List Action} {task' : TaskId} {run' : RunId} {file' : Path}
    (h : Admitted site actions task run file) (h' : Admitted site actions task' run' file')
    (heq : task = task' ∨ run = run') : task = task' ∧ run = run' ∧ file = file' := by
  obtain ⟨before, rest, rfl, hadmits⟩ := h
  obtain ⟨before', rest', hsplit, hadmits'⟩ := h'
  rcases places hsplit with ⟨rfl, htask⟩ | ⟨mid, rfl⟩ | ⟨mid, rfl⟩
  · cases htask
    exact ⟨rfl, hadmits.eq hadmits'⟩
  · obtain ⟨htask, hrun⟩ := hadmits.ne_of_later hadmits'
    exact absurd heq (not_or.mpr ⟨htask, hrun⟩)
  · obtain ⟨htask, hrun⟩ := hadmits'.ne_of_later hadmits
    exact absurd heq (not_or.mpr ⟨htask.symm, hrun.symm⟩)

/-! ### The file of a run -/

/-- A run is on the path of the document that is active when it is admitted. -/
theorem Admits.document {before : List Action} (h : (after site before).Admits task run file) :
    ∃ document, (after site before).editor.active = some document ∧ document.isTla = true ∧
      Controller.absolutePath site.workingDirectory document.path = file := by
  have hmodel := h.model
  rw [site_after] at hmodel
  exact (Controller.modelToCheck_eq_ok_iff.mp hmodel).2

/-- A stop admits no run. -/
theorem admissions_stop (s : System) : admissions s.stop.2.1 = [] := by
  rw [stop_eq]
  cases hslot : s.controller.slot with
  | none => rw [Controller.stop_of_empty hslot]; rfl
  | some active =>
    cases hprocess : active.process with
    | none => rw [Controller.stop_of_spawning hslot hprocess]; rfl
    | some process => rw [Controller.stop_of_process hslot hprocess]; rfl

/-- A check that fails admits no run. -/
theorem admissions_failCheck (task : TaskId) (run : RunId) (e : CheckError) (s : System) :
    admissions (s.failCheck task run e).2 = [] := by
  rw [← admissions_filter, failCheck_noted]
  rcases s.controller.fail_events run with hevents | hevents <;> rw [hevents] <;> rfl

/-- Updates of the display admit no run. -/
theorem admissions_update (run : RunId) (delivered : List Snapshot) :
    admissions (delivered.map (Event.update run)) = [] := by
  rw [← admissions_filter, filter_update]
  rfl

/-- Only a step in which a request is admitted asks for a process. -/
theorem Transition.admits {s' : System} {events : List Event}
    (htransition : Transition s a s' events) (h : (run, file) ∈ admissions events) :
    ∃ task, a = .begin task ∧ s.Admits task run file := by
  have hnone : ∀ {P : Prop}, admissions events = [] → P := by
    intro P hnone
    rw [hnone] at h
    cases h
  cases htransition with
  | @reserved task r path ht hr hm =>
    rw [Controller.reserve_eq] at h
    obtain ⟨rfl, rfl⟩ := Prod.mk.inj (List.mem_singleton.mp h)
    exact ⟨task, rfl, ⟨r, ht, hr⟩, hm, rfl⟩
  | stopped => exact hnone (admissions_stop s)
  | taskStopped ht => exact hnone (admissions_stop s)
  | attached ht pid termination =>
    refine hnone ?_
    rw [attach_eq]
    dsimp only
    split <;> rfl
  | spawnFailed ht cause => exact hnone (admissions_failCheck ..)
  | readOn ht hp hfeed hopen => exact hnone (admissions_update ..)
  | readEnd ht hp hfeed hended =>
    refine hnone ?_
    rw [admissions_append, admissions_append, admissions_update, admissions_update]
    rfl
  | readFailed ht hp hfeed =>
    refine hnone ?_
    rw [admissions_append, admissions_update, admissions_failCheck]
    rfl
  | applyFailed ht cause => exact hnone (admissions_failCheck ..)
  | answered ht accepted => exact hnone (by cases accepted <;> rfl)
  | @abandoned task r path ht =>
    refine hnone ?_
    rcases s.controller.abandon_events r with hevents | hevents <;> rw [hevents] <;> rfl
  | @observed process p hget hhooked hexit =>
    refine hnone ?_
    rcases s.controller.complete_events p.run with hevents | hevents <;> rw [hevents] <;> rfl
  | _ => exact hnone rfl

/-- Every run that asked for a process was admitted for a task. -/
theorem exists_admitted {actions : List Action}
    (h : (run, file) ∈ admissions (history site actions)) :
    ∃ task, Admitted site actions task run file := by
  induction actions using List.reverseRecOn with
  | nil => cases h
  | append_singleton actions a ih =>
    rw [history_concat, admissions_append, List.mem_append] at h
    rcases h with h | h
    · obtain ⟨task, hadmitted⟩ := ih h
      exact ⟨task, hadmitted.append [a]⟩
    · obtain ⟨task, rfl, hadmits⟩ := (transition_step _ a).admits h
      exact ⟨task, actions, [], rfl, hadmits⟩

/-- A run that was admitted has asked for its process. -/
theorem Admitted.mem_admissions {actions : List Action} (h : Admitted site actions task run file) :
    (run, file) ∈ admissions (history site actions) := by
  obtain ⟨before, rest, rfl, hadmits⟩ := h
  have hstep : (run, file) ∈ admissions ((after site before).step (.begin task)).2 := by
    rw [hadmits.step]
    exact List.mem_singleton_self _
  rw [history, run_append, admissions_append, System.run, admissions_append]
  exact List.mem_append_right _ (List.mem_append_left _ hstep)

/-! ### Requests that are turned down -/

/-- The trace of a task that begins is what it does in that step. -/
theorem Requested.trace {before : List Action} (h : (after site before).Requested task) :
    System.trace site (before ++ [.begin task]) task = ((after site before).step (.begin task)).2 := by
  obtain ⟨r, ht, _⟩ := h
  have hunbegun : System.trace site before task = [] := by
    refine trace_of_unbegun before fun stage hstage => ⟨r, ?_⟩
    rw [ht] at hstage
    exact (Option.some.inj hstage).symm
  rw [trace_concat_of_task _ rfl, hunbegun, List.nil_append]

/-- What holds of a task when its check is admitted holds of it from there on, if it is kept by the
steps of others, by the task's own steps, and by those that it does not wait for. -/
theorem Admitted.induction {P : List Action → Stage → Prop}
    (hbegin : ∀ {before : List Action}, (after site before).Admits task run file →
      P (before ++ [.begin task]) (.spawning run file))
    (hother : ∀ {actions : List Action} {a : Action} {stage : Stage},
      (after site actions).tasks[task]? = some stage → a.task? ≠ some task → P actions stage →
      P (actions ++ [a]) stage)
    (hrefused : ∀ {actions : List Action} {a : Action} {stage : Stage},
      (after site actions).step a = (after site actions, []) → a.task? = some task →
      P actions stage → P (actions ++ [a]) stage)
    (hown : ∀ {actions : List Action} {a : Action} {stage : Stage},
      (after site actions).tasks[task]? = some stage → Awaits task stage a → P actions stage →
      ∃ next, ((after site actions).step a).1.tasks[task]? = some next ∧ P (actions ++ [a]) next)
    {actions : List Action} (h : Admitted site actions task run file) :
    ∃ stage, (after site actions).tasks[task]? = some stage ∧ P actions stage := by
  obtain ⟨before, rest, rfl, hadmits⟩ := h
  have hbegun := hadmits.spawning
  rw [← after_concat] at hbegun
  rw [List.append_cons]
  exact task_induction hother hrefused hown hbegun (hbegin hadmits) rest

/-- How far a task has come whose request was turned down, with its trace: the user has been told
why, and an offer may have been answered since. -/
inductive Refused (reason : Rejection) : Stage → List Event → Prop
  | offering (h : reason = .alreadyRunning) : Refused reason .offering [reason.notice]
  | ended : Refused reason (.ended (.checked (.rejected reason))) [reason.notice]
  | accepted (h : reason = .alreadyRunning) :
      Refused reason (.ended (.checked (.rejected reason))) [reason.notice, .reveal]
  | dropped (h : reason = .alreadyRunning) : Refused reason (.ended .cancelled) [reason.notice]

/-- At first a request that was turned down has its notice and nothing else. -/
theorem refused_begun (reason : Rejection) : Refused reason reason.stage [reason.notice] := by
  cases reason with
  | alreadyRunning => exact .offering rfl
  | noActiveEditor => exact .ended
  | notTlaFile => exact .ended

/-- An offer is answered, or its task is dropped. -/
inductive Answers (s : System) (task : TaskId) : Action → System × List Event → Prop
  | answered (accepted : Bool) : Answers s task (.answer task accepted)
      (s.setTask task (.ended (.checked (.rejected .alreadyRunning))),
        if accepted then [.reveal] else [])
  | dropped : Answers s task (.abort task) (s.setTask task (.ended .cancelled), [])

/-- A task whose request was turned down waits for something only while it has an offer. -/
theorem Refused.answers {stage : Stage} {events : List Event} (h : Refused reason stage events)
    (ht : s.tasks[task]? = some stage) (hawaits : Awaits task stage a) :
    reason = .alreadyRunning ∧ stage = .offering ∧ events = [reason.notice] ∧
      Answers s task a (s.step a) := by
  cases h with
  | offering hreason =>
    refine ⟨hreason, rfl, rfl, ?_⟩
    cases hawaits with
    | answer accepted =>
      simp only [step, ht]
      exact .answered accepted
    | abort hne =>
      simp only [step, abort, ht]
      exact .dropped
  | ended => cases hawaits with | abort hne => exact absurd rfl (hne _)
  | accepted hreason => cases hawaits with | abort hne => exact absurd rfl (hne _)
  | dropped hreason => cases hawaits with | abort hne => exact absurd rfl (hne _)

/-- With an answer, or dropped, such a task ends. -/
theorem Refused.own {stage : Stage} {events : List Event} (h : Refused reason stage events)
    (ht : s.tasks[task]? = some stage) (hawaits : Awaits task stage a) :
    ∃ next, (s.step a).1.tasks[task]? = some next ∧ Refused reason next (events ++ (s.step a).2) := by
  obtain ⟨rfl, rfl, rfl, hanswers⟩ := h.answers ht hawaits
  generalize s.step a = stepped at hanswers
  cases hanswers with
  | answered accepted =>
    refine ⟨_, task_setTask ht _, ?_⟩
    cases accepted
    · exact .ended
    · exact .accepted rfl
  | dropped => exact ⟨_, task_setTask ht _, .dropped rfl⟩

/-- A task whose request was turned down has no part in any run. -/
theorem Refused.role {stage : Stage} {events : List Event} (h : Refused reason stage events) :
    stage.role = .bystander := by
  cases h <;> rfl

/-- A task whose request was turned down has told so, and nothing more unless an offer was
accepted. -/
theorem TurnedDown.refused {actions : List Action} (h : TurnedDown site actions task reason) :
    ∃ stage, (after site actions).tasks[task]? = some stage ∧
      Refused reason stage (trace site actions task) := by
  obtain ⟨before, rest, rfl, hdown⟩ := h
  have hbegun := hdown.stage
  rw [← after_concat] at hbegun
  have htold : Refused reason reason.stage (trace site (before ++ [.begin task]) task) := by
    rw [hdown.requested.trace, hdown.step]
    exact refused_begun reason
  rw [List.append_cons]
  refine task_induction (P := fun actions stage => Refused reason stage (trace site actions task))
    (fun _ ha h => ?other) (fun hstep _ h => ?refused) (fun ht hawaits h => ?own) hbegun htold rest
  case other => rwa [trace_concat_of_ne _ ha]
  case refused => rwa [trace_concat_of_silent _ (by rw [hstep])]
  case own =>
    rw [trace_concat_of_task _ hawaits.task_eq]
    exact h.own ht hawaits

/-- Such a task has no part in a run. -/
theorem TurnedDown.role {actions : List Action} (h : TurnedDown site actions task reason) :
    (after site actions).role task = .bystander := by
  obtain ⟨stage, ht, hrefused⟩ := h.refused
  rw [role_of_task ht]
  exact hrefused.role

end System

end ModelCheck
