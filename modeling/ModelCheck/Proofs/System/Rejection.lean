import ModelCheck.Proofs.System.Failure

/-!
# Requests that are turned down

A request to check is decided on in one step: it is turned down if a run is in the slot, else if no
document is active, else if the active document is not in TLA+, and it is admitted otherwise. As long
as no run leaves the slot only one of any number of requests is admitted. A request that is turned
down tells the user so, and no step of its task ever moves anything but the task itself.
-/

namespace ModelCheck

namespace System

variable {site : Site} {s s' : System} {a : Action} {task : TaskId} {run : RunId} {file : Path}
  {reason : Rejection} {stage : Stage} {active : ActiveRun} {before rest : List Action}

/-! ### How a request is decided -/

/-- How a request is decided in the step in which its task begins, by the run in the slot and the
active document. The stage of its task then tells which way it went. -/
structure Decided (s : System) (task : TaskId) : Prop where
  alreadyRunning : (s.step (.begin task)).1.tasks[task]? = some .offering ↔
    s.controller.slot.isSome
  noActiveEditor : (s.step (.begin task)).1.tasks[task]? =
      some (.ended (.checked (.rejected .noActiveEditor))) ↔
    s.controller.slot = none ∧ s.editor.active = none
  notTlaFile : (s.step (.begin task)).1.tasks[task]? =
      some (.ended (.checked (.rejected .notTlaFile))) ↔
    s.controller.slot = none ∧
      ∃ document, s.editor.active = some document ∧ document.language ≠ .tlaplus
  admitted : ∀ run file, (s.step (.begin task)).1.tasks[task]? = some (.spawning run file) ↔
    run = s.controller.nextRun ∧ s.controller.slot = none ∧
      ∃ document, s.editor.active = some document ∧ document.language = .tlaplus ∧
        Controller.absolutePath s.site.workingDirectory document.path = file

/-- Where a task is once it has begun a check. -/
theorem Requested.begun (h : s.Requested task) :
    (s.step (.begin task)).1.tasks[task]? =
      some (match s.controller.modelToCheck s.site.workingDirectory s.editor with
        | .ok file => .spawning s.controller.nextRun file
        | .error reason => reason.stage) := by
  rcases h.admits_or_turnsDown with ⟨run, file, hadmits⟩ | ⟨reason, hdown⟩
  · rw [hadmits.spawning, hadmits.model, hadmits.run]
  · rw [hdown.stage, hdown.model]

/-- What becomes of a request is decided in the step that begins it, by the slot first, then by whether
a document is open, and by its language at last. -/
theorem Requested.decided (h : s.Requested task) : s.Decided task := by
  have hbegun := h.begun
  cases hslot : s.controller.slot with
  | some active =>
    rw [Controller.modelToCheck_of_held hslot] at hbegun
    constructor <;> simp [hbegun, hslot, Rejection.stage]
  | none =>
    cases hactive : s.editor.active with
    | none =>
      rw [Controller.modelToCheck_of_closed hslot _ hactive] at hbegun
      constructor <;> simp [hbegun, hslot, hactive, Rejection.stage]
    | some document =>
      rw [Controller.modelToCheck_of_document hslot _ hactive] at hbegun
      by_cases htla : document.language = .tlaplus
      · have hmodel : document.isTla = true := decide_eq_true htla
        rw [if_pos hmodel] at hbegun
        constructor <;> simp [hbegun, hslot, hactive, htla, eq_comm]
      · have hmodel : document.isTla = false := decide_eq_false htla
        rw [hmodel, if_neg Bool.false_ne_true] at hbegun
        constructor <;> simp [hbegun, hslot, hactive, htla, Rejection.stage]

/-- A request is turned down for a reason if that is where its task is afterwards. -/
theorem Requested.turnsDown_iff (h : s.Requested task) :
    s.TurnsDown task reason ↔ (s.step (.begin task)).1.tasks[task]? = some reason.stage := by
  have hbegun := h.begun
  constructor
  · intro hdown
    rwa [hdown.model] at hbegun
  · intro hstage
    refine ⟨h, ?_⟩
    rw [hstage] at hbegun
    cases hm : s.controller.modelToCheck s.site.workingDirectory s.editor with
    | ok file => rw [hm] at hbegun; cases reason <;> cases hbegun
    | error other => rw [hm] at hbegun; cases reason <;> cases other <;> first | rfl | cases hbegun

/-! ### One of many requests -/

/-- A run stays in the slot as long as none leaves it. -/
theorem slot_of_unreleased (hslot : s.controller.slot = some active)
    (hnone : s.releases rest = []) : ∃ now, (s.run rest).1.controller.slot = some now := by
  induction rest generalizing s active with
  | nil => exact ⟨active, hslot⟩
  | cons a rest ih =>
    rw [releases, List.append_eq_nil_iff] at hnone
    obtain ⟨hkept, hnone⟩ := hnone
    have hstays : (s.step a).1.controller.slot.map (·.id) = some active.id := by
      by_contra hleft
      rw [released, hslot, Option.bind_some, if_neg hleft] at hkept
      cases hkept
    obtain ⟨now, hnow, _⟩ := Option.map_eq_some_iff.mp hstays
    exact ih hnow hnone

/-- A request is admitted while actions follow a history. -/
def AdmittedIn (site : Site) (before rest : List Action) (task : TaskId) : Prop :=
  ∃ mid tail run file, rest = mid ++ .begin task :: tail ∧
    (after site (before ++ mid)).Admits task run file

/-- As long as no run leaves the slot no request is admitted to it. -/
theorem not_admits_of_unreleased (hslot : (after site before).controller.slot = some active)
    (hnone : (after site before).releases rest = []) :
    ¬ (after site (before ++ rest)).Admits task run file := by
  intro hadmits
  obtain ⟨now, hnow⟩ := slot_of_unreleased hslot hnone
  rw [← after_append] at hnow
  rw [Controller.slot_of_modelToCheck hadmits.model] at hnow
  cases hnow

/-- Of two requests the later one is not admitted unless a run has left the slot in between. -/
theorem Admits.not_later {mid : List Action} {task' : TaskId} {run' : RunId} {file' : Path}
    (h : (after site before).Admits task run file)
    (hnone : (after site before).releases (.begin task :: mid) = []) :
    ¬ (after site (before ++ .begin task :: mid)).Admits task' run' file' := by
  have hslot : (after site (before ++ [.begin task])).controller.slot =
      some ⟨(after site before).controller.nextRun, file, none, false, false⟩ := by
    rw [after_concat, h.step]
    rfl
  rw [releases, List.append_eq_nil_iff, ← after_concat] at hnone
  intro hadmits
  rw [List.append_cons] at hadmits
  exact not_admits_of_unreleased hslot hnone.2 hadmits

/-- As long as no run leaves the slot one request is admitted at most. -/
theorem admittedIn_unique {task' : TaskId} (hnone : (after site before).releases rest = [])
    (h : AdmittedIn site before rest task) (h' : AdmittedIn site before rest task') : task = task' := by
  obtain ⟨mid, tail, run, file, rfl, hadmits⟩ := h
  obtain ⟨mid', tail', run', file', hsplit, hadmits'⟩ := h'
  -- nothing is released from the first of the two places to the second
  have hunreleased : ∀ (mid more tail : List Action) (other : TaskId),
      (after site before).releases (mid ++ .begin other :: more ++ tail) = [] →
      (after site (before ++ mid)).releases (.begin other :: more) = [] := by
    intro mid more tail other h
    rw [List.append_assoc, releases_append, releases_append, ← after_append,
      List.append_eq_nil_iff, List.append_eq_nil_iff] at h
    exact h.2.1
  rcases places hsplit with ⟨rfl, heq⟩ | ⟨more, rfl⟩ | ⟨more, rfl⟩
  · cases heq
    rfl
  · rw [← List.append_assoc] at hadmits'
    rw [hsplit] at hnone
    exact absurd hadmits' (hadmits.not_later (hunreleased mid more _ task hnone))
  · rw [← List.append_assoc] at hadmits
    exact absurd hadmits (hadmits'.not_later (hunreleased mid' more _ task' hnone))

/-! ### What a request that is turned down leaves alone -/

/-- A step of a task moves nothing but the task. -/
structure Aside (task : TaskId) (s s' : System) : Prop where
  controller : s'.controller = s.controller
  processes : s'.processes = s.processes
  editor : s'.editor = s.editor
  others : ∀ other, other ≠ task → s'.tasks[other]? = s.tasks[other]?

/-- A step that changes nothing moves nothing. -/
theorem aside_refl (task : TaskId) (s : System) : Aside task s s :=
  ⟨rfl, rfl, rfl, fun _ _ => rfl⟩

/-- Putting a task at a stage moves no other task and nothing else. -/
theorem aside_setTask (task : TaskId) (stage : Stage) (s : System) :
    Aside task s (s.setTask task stage) :=
  ⟨rfl, rfl, rfl, fun _ hne => List.getElem?_set_ne hne.symm⟩

/-- The user accepts the offer that a task has made, in the course of actions after a history. -/
def OfferAccepted (site : Site) (before rest : List Action) (task : TaskId) : Prop :=
  ∃ mid tail, rest = mid ++ .answer task true :: tail ∧
    (after site (before ++ mid)).tasks[task]? = some .offering

/-- The steps of a task whose request was turned down move nothing else, and they display the run in
the way only if its offer is accepted. -/
theorem Refused.step {events : List Event} (h : Refused reason stage events)
    (ht : s.tasks[task]? = some stage) (ha : a.task? = some task) :
    Aside task s (s.step a).1 ∧ ((s.step a).2 = [] ∨
      reason = .alreadyRunning ∧ stage = .offering ∧ a = .answer task true ∧
        (s.step a).2 = [.reveal]) := by
  rcases awaits_or_refused ht ha with hawaits | hrefused
  · obtain ⟨hreason, hstage, _, hanswers⟩ := h.answers ht hawaits
    generalize s.step a = stepped at hanswers
    cases hanswers with
    | answered accepted =>
      refine ⟨aside_setTask .., ?_⟩
      cases accepted
      · exact .inl rfl
      · exact .inr ⟨hreason, hstage, rfl, rfl⟩
    | dropped => exact ⟨aside_setTask .., .inl rfl⟩
  · rw [hrefused]
    exact ⟨aside_refl .., .inl rfl⟩

/-- What becomes of a request that is turned down, in the course of actions that follow. -/
structure StaysAside (site : Site) (before : List Action) (task : TaskId) (reason : Rejection)
    (rest : List Action) : Prop where
  /-- Each later step of its task moves nothing else. It has no event, unless it answers the offer:
  then the run in the way is displayed. -/
  later : ∀ a, a.task? = some task →
    Aside task (after site (before ++ .begin task :: rest))
      (after site (before ++ .begin task :: (rest ++ [a]))) ∧
    (((after site (before ++ .begin task :: rest)).step a).2 = [] ∨
      reason = .alreadyRunning ∧ a = .answer task true ∧
        ((after site (before ++ .begin task :: rest)).step a).2 = [.reveal])
  /-- The user has been told once. -/
  silent : ¬ OfferAccepted site (before ++ [.begin task]) rest task →
    trace site (before ++ .begin task :: rest) task = [reason.notice]
  accepted : OfferAccepted site (before ++ [.begin task]) rest task → reason = .alreadyRunning ∧
    trace site (before ++ .begin task :: rest) task = [reason.notice, .reveal]

/-- An accepted offer is what lets the task display. -/
theorem TurnsDown.reveal_iff (h : (after site before).TurnsDown task reason) (rest : List Action) :
    .reveal ∈ trace site (before ++ [.begin task] ++ rest) task ↔
      OfferAccepted site (before ++ [.begin task]) rest task := by
  constructor
  · intro hmem
    rcases exists_step_of_mem_trace_append hmem with hmem | ⟨mid, a, tail, rfl, ha, hmem⟩
    · rw [h.requested.trace, h.step] at hmem
      cases reason <;> cases List.mem_singleton.mp hmem
    · have hdown : TurnedDown site (before ++ [.begin task] ++ mid) task reason :=
        ⟨before, mid, by simp, h⟩
      obtain ⟨stage, ht, hrefused⟩ := hdown.refused
      rcases (hrefused.step ht ha).2 with hsilent | ⟨_, rfl, rfl, _⟩
      · rw [hsilent] at hmem
        cases hmem
      · exact ⟨mid, tail, rfl, ht⟩
  · rintro ⟨mid, tail, rfl, ht⟩
    have hshown : .reveal ∈ trace site (before ++ [.begin task] ++ mid ++ [.answer task true]) task := by
      rw [trace_concat_of_task _ rfl]
      refine List.mem_append_right _ ?_
      simp only [System.step, ht, answer, if_true, List.mem_singleton]
    rw [← List.append_assoc, List.append_cons _ (Action.answer task true)]
    exact (trace_isPrefix site _ tail task).subset hshown

/-- A request that is turned down stays aside from everything else, whatever happens after it. -/
theorem TurnsDown.staysAside (h : (after site before).TurnsDown task reason) (rest : List Action) :
    StaysAside site before task reason rest := by
  have hdown : TurnedDown site (before ++ .begin task :: rest) task reason := ⟨before, rest, rfl, h⟩
  have hreveal := h.reveal_iff rest
  obtain ⟨stage, ht, hrefused⟩ := hdown.refused
  refine ⟨?later, ?silent, ?accepted⟩
  case later =>
    intro a ha
    rw [← List.cons_append, ← List.append_assoc, after_concat]
    refine (hrefused.step ht ha).imp_right (Or.imp_right ?_)
    rintro ⟨hreason, _, hanswer, hevents⟩
    exact ⟨hreason, hanswer, hevents⟩
  case silent =>
    intro hnever
    rw [← hreveal, ← List.append_cons] at hnever
    generalize trace site (before ++ .begin task :: rest) task = events at hrefused hnever ⊢
    cases hrefused with
    | accepted hreason => exact absurd (by simp) hnever
    | _ => rfl
  case accepted =>
    intro haccepted
    rw [← hreveal, ← List.append_cons] at haccepted
    generalize trace site (before ++ .begin task :: rest) task = events at hrefused haccepted ⊢
    have hnotice : reason.notice ≠ .reveal := by cases reason <;> nofun
    cases hrefused with
    | accepted hreason => exact ⟨hreason, rfl⟩
    | _ => exact absurd (List.mem_singleton.mp haccepted).symm hnotice

/-- The offer is answered when the run in the way has failed and another has begun. -/
example : trace workSite [.openDocument ⟨"/specs/Queue.tla"⟩, .request .check, .begin 0,
      .request .check, .begin 1, .spawned 0 (.failure (.ofCause "no java")), .request .check,
      .begin 2, .answer 1 true] 1 =
    [Rejection.alreadyRunning.notice, .reveal] := by
  decide +kernel

/-! ### The contract -/

/-- How requests to check are decided after actions from the start, and what becomes of those that
are turned down. -/
structure Rejections (site : Site) (actions : List Action) : Prop where
  decided : ∀ task, (after site actions).Requested task → (after site actions).Decided task
  /-- As long as no run leaves the slot one request is admitted at most, and none if a run is in it
  already. -/
  unique : ∀ rest, (after site actions).releases rest = [] →
    (∀ task task', AdmittedIn site actions rest task → AdmittedIn site actions rest task' →
      task = task') ∧
    ((after site actions).controller.slot.isSome → ∀ task, ¬ AdmittedIn site actions rest task)
  /-- The step that turns a request down moves its task only, and tells the user. -/
  step : ∀ task (reason : Rejection), (after site actions).Requested task →
    (after site (actions ++ [.begin task])).tasks[task]? = some reason.stage →
    Aside task (after site actions) (after site (actions ++ [.begin task])) ∧
      ((after site actions).step (.begin task)).2 = [reason.notice]
  /-- So it stays, whatever follows. -/
  later : ∀ task (reason : Rejection) rest, (after site actions).Requested task →
    (after site (actions ++ [.begin task])).tasks[task]? = some reason.stage →
    StaysAside site actions task reason rest
  /-- A check ends with a rejection only if its request was turned down for that reason. -/
  ended : ∀ task reason,
    (after site actions).tasks[task]? = some (.ended (.checked (.rejected reason))) →
    TurnedDown site actions task reason

/-- In every history requests are decided in one order, and those that are turned down have no other
effect than to be told of. -/
theorem rejections_aside (site : Site) (actions : List Action) : Rejections site actions := by
  refine ⟨fun task => Requested.decided, ?unique, ?step, ?later,
    fun task reason => turnedDown_of_rejected⟩
  case unique =>
    intro rest hnone
    refine ⟨fun task task' => admittedIn_unique hnone, ?_⟩
    rintro hslot task ⟨mid, tail, run, file, rfl, hadmits⟩
    obtain ⟨active, hactive⟩ := Option.isSome_iff_exists.mp hslot
    rw [releases_append, List.append_eq_nil_iff] at hnone
    exact not_admits_of_unreleased hactive hnone.1 hadmits
  case step =>
    intro task reason hrequested hstage
    rw [after_concat] at hstage ⊢
    rw [(hrequested.turnsDown_iff.mpr hstage).step]
    exact ⟨aside_setTask .., rfl⟩
  case later =>
    intro task reason rest hrequested hstage
    rw [after_concat] at hstage
    exact (hrequested.turnsDown_iff.mpr hstage).staysAside rest

end System

end ModelCheck
