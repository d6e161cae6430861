import ModelCheck.Proofs.System.Course

/-!
# The pipeline of a run

In every history the events of a run are those of its task, and they are the reference for its
output up to some event: all of it exactly if the task completes, and up to the place where it failed
or was dropped otherwise.
-/

namespace ModelCheck

namespace System

variable {site : Site} {s : System} {actions : List Action} {a : Action} {task : TaskId}
  {run : RunId} {file : Path} {stage : Stage} {events : List Event}

/-! ### Whose events they are -/

/-- Only a task that was admitted has a part in a run. -/
theorem admitted_of_role (h : ((after site actions).role task).run? = some run) :
    ∃ file, Admitted site actions task run file := by
  cases ht : (after site actions).tasks[task]? with
  | none => rw [role, ht] at h; cases h
  | some stage =>
    rw [role_of_task ht] at h
    have hstage : stage.isOfCheck = true := by
      cases stage <;> first | rfl | cases h
    rcases admitted_or_turnedDown actions ht hstage with ⟨run', file, hadmitted⟩ | ⟨reason, hdown⟩
    · obtain ⟨now, hnow, hcourse⟩ := hadmitted.course
      rw [ht] at hnow
      cases hnow
      have hrun : run' = run := by
        generalize pipeline site actions task = events at hcourse
        cases hcourse <;> cases h <;> rfl
      exact ⟨file, hrun ▸ hadmitted⟩
    · have hrole := hdown.role
      rw [role_of_task ht] at hrole
      rw [hrole] at h
      cases h

/-- What happens for the pipeline of a run happens in a step of its task. -/
theorem admitted_of_mem {e : Event} (he : e ∈ ((after site actions).step a).2)
    (hrun : e.pipelineRun? = some run) :
    ∃ task file, a.task? = some task ∧ Admitted site (actions ++ [a]) task run file := by
  have hpart : ∀ {task : TaskId} {stage : Stage}, (after site actions).tasks[task]? = some stage →
      stage.role.run? = some run → a.task? = some task →
      ∃ task file, a.task? = some task ∧ Admitted site (actions ++ [a]) task run file := by
    intro task stage ht hrole ha
    obtain ⟨file, hadmitted⟩ := admitted_of_role (by rw [role_of_task ht]; exact hrole)
    exact ⟨task, file, ha, hadmitted.append [a]⟩
  cases cause_of_mem he with
  | other hother =>
    cases e <;> cases hother <;> cases hrun
    next tool file arguments =>
    have hmem : (run, file) ∈ admissions ((after site actions).step a).2 :=
      List.mem_filterMap.mpr ⟨_, he, rfl⟩
    obtain ⟨task, rfl, hadmits⟩ := (transition_step _ a).admits hmem
    exact ⟨task, file, rfl, actions, [], rfl, hadmits⟩
  | stop ha hslot hprocess => cases hrun
  | deferredStop ht hslot hrequested => cases hrun
  | failure hfails hslot hprocess => cases hrun
  | drop ht => cases hrun
  | error hfails text => cases hrun
  | attached ht => cases hrun; exact hpart ht rfl rfl
  | delivered ht hget hmem => cases hrun; exact hpart ht rfl rfl
  | last ht hget hfeed hended hmem => cases hrun; exact hpart ht rfl rfl
  | applied ht hget hfeed hended => cases hrun; exact hpart ht rfl rfl

/-- The events of a history that belong to the pipeline of a run. -/
def pipelineOf (run : RunId) (events : List Event) : List Event :=
  events.filter fun e => e.pipelineRun? = some run

/-- All that a history has of the pipeline of a run is the pipeline of its task. -/
theorem Admitted.pipelineOf_history {more : List Action}
    (h : Admitted site (actions ++ more) task run file) :
    pipelineOf run (history site actions) = pipeline site actions task := by
  induction actions using List.reverseRecOn generalizing more with
  | nil => rfl
  | append_singleton actions a ih =>
    have hmore : Admitted site (actions ++ a :: more) task run file := by simpa using h
    have howner : ∀ {e : Event} {r : RunId}, e ∈ ((after site actions).step a).2 →
        e.pipelineRun? = some r → ∃ t f, a.task? = some t ∧
          Admitted site (actions ++ [a] ++ more) t r f := by
      intro e r he hrun
      obtain ⟨t, f, ht, hadmitted⟩ := admitted_of_mem he hrun
      exact ⟨t, f, ht, hadmitted.append more⟩
    have hsame : pipelineOf run ((after site actions).step a).2 =
        if a.task? = some task then ((after site actions).step a).2.filter Event.isPipeline else [] := by
      split
      · next ha =>
        refine List.filter_congr fun e he => ?_
        cases hrun : e.pipelineRun? with
        | none => simp [Event.isPipeline, hrun]
        | some r =>
          obtain ⟨t, f, ht, hadmitted⟩ := howner he hrun
          rw [ha] at ht
          cases ht
          obtain ⟨_, rfl, _⟩ := hadmitted.unique h (.inl rfl)
          simp [Event.isPipeline, hrun]
      · next ha =>
        refine List.filter_eq_nil_iff.mpr fun e he hrun => ?_
        obtain ⟨t, f, ht, hadmitted⟩ := howner he (of_decide_eq_true hrun)
        obtain ⟨rfl, _⟩ := hadmitted.unique h (.inr rfl)
        exact ha ht
    rw [history_concat, pipelineOf, List.filter_append, ← pipelineOf, ← pipelineOf, ih hmore, hsame]
    split
    · next ha => rw [pipeline, pipeline, trace_concat_of_task _ ha, List.filter_append]
    · next ha => rw [pipeline, pipeline, trace_concat_of_ne _ ha, List.append_nil]

/-! ### The pipeline and its reference -/

/-- Chunks can be given moments at which they are read. -/
theorem exists_timed (chunks : List Output.Chunk) :
    ∃ timed : List (Moment × Output.Chunk), timed.map Prod.snd = chunks :=
  ⟨chunks.map fun chunk => (default, chunk), by simp [Function.comp_def]⟩

/-- Output that has been read in part can be read on. -/
theorem exists_more {taken : List (Moment × Output.Chunk)} {chunks : List Output.Chunk}
    (h : taken.map Prod.snd <+: chunks) :
    ∃ more : List (Moment × Output.Chunk), (taken ++ more).map Prod.snd = chunks := by
  obtain ⟨rest, rfl⟩ := h
  obtain ⟨more, rfl⟩ := exists_timed rest
  exact ⟨more, List.map_append⟩

/-- What has been shown for a part of the output is the front of the reference, whatever the output goes
on with. -/
theorem Reached.shown_isPrefix {taken : List (Moment × Output.Chunk)} {reader : Output.Reader}
    {delivered : List Snapshot} (h : Reached site file taken reader delivered) (last : Moment)
    (more : List (Moment × Output.Chunk)) :
    shown run file delivered <+: reference site run file last (taken ++ more) := by
  refine System.shown_isPrefix ?_
  rw [h]
  exact List.prefix_append _ _

/-- The pipeline of a run is the reference for all its output, up to some event. -/
theorem Course.isPrefix (h : Course site actions task run file stage events) :
    ∃ last output, output.map Prod.snd = emitted site actions run ∧
      events <+: reference site run file last output := by
  have hspawn : ∃ last output, output.map Prod.snd = emitted site actions run ∧
      [.spawn run checkerTool file checkerArguments] <+: reference site run file last output := by
    obtain ⟨output, houtput⟩ := exists_timed (emitted site actions run)
    have hopening : [.spawn run checkerTool file checkerArguments] <+: shown run file [] :=
      ⟨[.revealEmpty run], rfl⟩
    exact ⟨default, output, houtput,
      hopening.trans (shown_isPrefix (List.nil_prefix))⟩
  have hparsedAll : ∀ {read : Output} {delivered : List Snapshot},
      ParsedAll site actions run file read delivered →
      ∃ last output, output.map Prod.snd = emitted site actions run ∧
        shown run file delivered ++ [.apply run read.diagnostics] <+:
          reference site run file last output := by
    intro read delivered hparsed
    obtain ⟨last, output, houtput, hparse⟩ := hparsed.parsed
    exact ⟨last, output, houtput, reference_of_ok hparse ▸ List.prefix_rfl⟩
  cases h with
  | spawning => exact hspawn
  | spawnFailed message => exact hspawn
  | abandoned => exact hspawn
  | reading hget hreadable hreached hall =>
    obtain ⟨more, hmore⟩ := exists_more (hall ▸ List.prefix_append _ _)
    exact ⟨default, _, hmore, hreached.shown_isPrefix default more⟩
  | readFailed message hfailed hpart =>
    obtain ⟨more, hmore⟩ := exists_more hpart
    exact ⟨default, _, hmore, reference_of_error (hfailed default more) ▸ List.prefix_rfl⟩
  | readingDropped hreached hpart =>
    obtain ⟨more, hmore⟩ := exists_more hpart
    exact ⟨default, _, hmore, hreached.shown_isPrefix default more⟩
  | applying hparsed => exact hparsedAll hparsed
  | completed hparsed haccepted => exact hparsedAll hparsed
  | applyFailed message hparsed => exact hparsedAll hparsed
  | applyingDropped hparsed => exact hparsedAll hparsed

/-- The output of a run has been read to its end without a failure, and its task has gone all the
way along the reference, with these diagnostics at its end. -/
structure Whole (site : Site) (actions : List Action) (task : TaskId) (run : RunId) (file : Path)
    (diagnostics : Collection) : Prop where
  ended : ∃ (process : ProcessId) (p : Process), (after site actions).processes[process]? = some p ∧
    p.run = run ∧ p.writable = false
  trace : ∃ last output read delivered, output.map Prod.snd = emitted site actions run ∧
    parse last output (site.reader file) = (.ok read, delivered) ∧ read.diagnostics = diagnostics ∧
    pipeline site actions task = reference site run file last output

/-- A task that has handed on its diagnostics has gone all the way along the reference. -/
theorem ParsedAll.whole {read : Output} {delivered : List Snapshot}
    (h : ParsedAll site actions run file read delivered)
    (hevents : pipeline site actions task =
      shown run file delivered ++ [.apply run read.diagnostics]) :
    Whole site actions task run file read.diagnostics := by
  obtain ⟨last, output, houtput, hparse⟩ := h.parsed
  exact ⟨h.ended, last, output, read, delivered, houtput, hparse, rfl,
    hevents.trans (reference_of_ok hparse).symm⟩

/-- Diagnostics are the last event of the whole reference. -/
theorem Whole.getLast {diagnostics : Collection}
    (h : Whole site actions task run file diagnostics) :
    (pipeline site actions task).getLast? = some (.apply run diagnostics) := by
  obtain ⟨last, output, read, delivered, _, hparse, rfl, htrace⟩ := h.trace
  rw [htrace, reference_of_ok hparse, List.getLast?_append]
  rfl

/-- Before the diagnostics nothing is applied. -/
theorem apply_not_mem_shown {diagnostics : Collection} {delivered : List Snapshot} :
    .apply run diagnostics ∉ shown run file delivered := by
  simp [shown]

/-- Diagnostics are handed on only after the whole output has been read. -/
theorem Course.whole_of_mem {diagnostics : Collection}
    (h : Course site actions task run file stage (pipeline site actions task))
    (hmem : .apply run diagnostics ∈ pipeline site actions task) :
    Whole site actions task run file diagnostics := by
  have hwhole : ∀ {read : Output} {delivered : List Snapshot},
      ParsedAll site actions run file read delivered →
      pipeline site actions task = shown run file delivered ++ [.apply run read.diagnostics] →
      Whole site actions task run file diagnostics := by
    intro read delivered hparsed hevents
    have hlast := hevents ▸ hmem
    rcases List.mem_append.mp hlast with hshown | happly
    · exact absurd hshown apply_not_mem_shown
    · obtain ⟨_, rfl⟩ := Event.apply.inj (List.mem_singleton.mp happly)
      exact hparsed.whole hevents
  generalize hevents : pipeline site actions task = events at h
  rw [hevents] at hmem
  cases h with
  | spawning => simp at hmem
  | spawnFailed message => simp at hmem
  | abandoned => simp at hmem
  | reading hget hreadable hreached hall => exact absurd hmem apply_not_mem_shown
  | readFailed message hfailed hpart => exact absurd hmem apply_not_mem_shown
  | readingDropped hreached hpart => exact absurd hmem apply_not_mem_shown
  | applying hparsed => exact hwhole hparsed hevents
  | completed hparsed haccepted => exact hwhole hparsed hevents
  | applyFailed message hparsed => exact hwhole hparsed hevents
  | applyingDropped hparsed => exact hwhole hparsed hevents

/-- The task ends as the sink has accepted, with as many diagnostics as it was handed. -/
theorem Accepted.completed (h : Accepted site actions task) :
    ∃ total, (after site actions).tasks[task]? = some (.ended (.checked (.completed total))) := by
  obtain ⟨before, rest, run, process, total, rfl, ht⟩ := h
  have hended : (after site (before ++ [.applied task none])).tasks[task]? =
      some (.ended (.checked (.completed total))) := by
    rw [after_concat]
    simp only [step, ht, System.applied]
    exact task_setTask ht _
  rw [List.append_cons]
  exact ⟨total, (ended_after hended rest).1⟩

/-- A check is completed just if its output has been read to the end without a failure and the sink has
accepted its diagnostics, as many as it was handed. -/
theorem Admitted.completed_iff (h : Admitted site actions task run file) (n : Nat) :
    (after site actions).tasks[task]? = some (.ended (.checked (.completed n))) ↔
      Accepted site actions task ∧
        ∃ diagnostics, Whole site actions task run file diagnostics ∧ diagnostics.total = n := by
  obtain ⟨stage, ht, hcourse⟩ := h.course
  -- whoever has completed was handed the diagnostics that are last in the pipeline
  have hcompleted : ∀ {total : Nat},
      (after site actions).tasks[task]? = some (.ended (.checked (.completed total))) →
      Accepted site actions task ∧
        ∃ diagnostics, Whole site actions task run file diagnostics ∧ diagnostics.total = total := by
    intro total hended
    rw [ht] at hended
    cases hended
    generalize hevents : pipeline site actions task = events at hcourse
    cases hcourse with
    | completed hparsed haccepted => exact ⟨haccepted, _, hparsed.whole hevents, rfl⟩
  refine ⟨hcompleted, ?_⟩
  rintro ⟨haccepted, diagnostics, hwhole, rfl⟩
  obtain ⟨total, hended⟩ := haccepted.completed
  obtain ⟨_, other, hother, rfl⟩ := hcompleted hended
  have hlast := hwhole.getLast.symm.trans hother.getLast
  obtain ⟨_, rfl⟩ := Event.apply.inj (Option.some.inj hlast)
  exact hended

/-- The display is opened exactly if the launcher has answered with a process. -/
theorem Admitted.revealEmpty_iff (h : Admitted site actions task run file) :
    .revealEmpty run ∈ pipeline site actions task ↔
      ∃ before pid termination rest,
        actions = before ++ .spawned task (.process pid termination) :: rest ∧
          (after site before).tasks[task]? = some (.spawning run file) := by
  constructor
  · intro hmem
    obtain ⟨before, a, rest, rfl, ha, he⟩ := exists_step_of_mem_trace (List.mem_of_mem_filter hmem)
    cases cause_of_mem he with
    | other hother => cases hother
    | @attached t r path pid termination ht =>
      cases ha
      refine ⟨before, pid, termination, rest, rfl, ?_⟩
      have hrun : ((after site before).role task).run? = some run := by
        rw [role_of_task ht]
        rfl
      obtain ⟨path', hadmitted⟩ := admitted_of_role hrun
      obtain ⟨_, _, rfl⟩ := (hadmitted.append _).unique h (.inl rfl)
      obtain ⟨stage, hstage, hcourse⟩ := hadmitted.course
      rw [ht] at hstage
      cases hstage
      generalize pipeline site before task = events at hcourse
      cases hcourse
      exact ht
  · rintro ⟨before, pid, termination, rest, rfl, ht⟩
    obtain ⟨_, _, _, _, _, hevents⟩ := (consistent_after site before).step_spawned ht pid termination
    have hstep : .revealEmpty run ∈
        trace site (before ++ [.spawned task (.process pid termination)]) task := by
      rw [trace_concat_of_task _ rfl, hevents]
      exact List.mem_append_right _ (List.mem_append_right _ List.mem_cons_self)
    rw [List.append_cons]
    exact List.mem_filter.mpr ⟨(trace_isPrefix site _ rest task).subset hstep, rfl⟩

/-- The pipeline of a task that has ended with a step is what it was before, and what the step has
added. -/
theorem pipeline_of_ended {before rest : List Action} {result : TaskResult}
    (ha : a.task? = some task)
    (hended : ((after site before).step a).1.tasks[task]? = some (.ended result)) :
    pipeline site (before ++ a :: rest) task =
      pipeline site before task ++ ((after site before).step a).2.filter Event.isPipeline := by
  rw [← after_concat] at hended
  rw [List.append_cons, pipeline, (ended_after hended rest).2, trace_concat_of_task _ ha, List.filter_append,
    pipeline]

/-- A run whose process cannot be spawned has asked for it, and that is all. -/
theorem Admitted.pipeline_of_spawn_failure {before : List Action}
    (h : Admitted site before task run file)
    (ht : (after site before).tasks[task]? = some (.spawning run file)) (cause : Failure)
    (rest : List Action) :
    pipeline site (before ++ .spawned task (.failure cause) :: rest) task =
      [.spawn run checkerTool file checkerArguments] := by
  have hstep : (after site before).step (.spawned task (.failure cause)) =
      (after site before).failCheck task run (.spawn checkerTool cause) := by
    simp only [step, ht, System.spawned]
  have hended : ((after site before).step (.spawned task (.failure cause))).1.tasks[task]? =
      some (.ended (.checked (.failed (CheckError.spawn checkerTool cause).message))) := by
    rw [hstep]
    exact failCheck_ended ht ..
  obtain ⟨stage, hstage, hcourse⟩ := h.course
  rw [ht] at hstage
  cases hstage
  rw [pipeline_of_ended rfl hended, hstep, failCheck_pipeline, List.append_nil]
  generalize pipeline site before task = events at hcourse
  cases hcourse
  rfl

/-- A run whose output cannot be read has shown what the parser delivers before the failure. -/
theorem Admitted.pipeline_of_read_failure {before : List Action} {now : Moment}
    (h : Admitted site before task run file) (hfails : Fails (after site before) (.read task now) run)
    (rest : List Action) :
    ∃ last output cause delivered,
      output.map Prod.snd = emitted site (before ++ .read task now :: rest) run ∧
      parse last output (site.reader file) = (.error cause, delivered) ∧
      pipeline site (before ++ .read task now :: rest) task = shown run file delivered := by
  cases hfails with
  | @stream _ _ process reader reader' p _ others cause ht hget hfeed =>
    have hstep := step_read_of_failure ht hget hfeed
    have hended : ((after site before).step (.read task now)).1.tasks[task]? =
        some (.ended (.checked (.failed (readFailure cause).message))) := by
      rw [hstep]
      exact failCheck_ended (by exact ht) ..
    obtain ⟨stage, hstage, hcourse⟩ := h.course
    rw [ht] at hstage
    cases hstage
    rw [pipeline_of_ended rfl hended, hstep, List.filter_append, filter_isPipeline_update,
      failCheck_pipeline, List.append_nil]
    generalize pipeline site before task = events at hcourse
    cases hcourse with
    | @reading _ q _ taken delivered hget' hreadable hreached hall =>
      rw [hget] at hget'
      cases hget'
      have hpart : (taken ++ p.arrived.map fun chunk => (now, chunk)).map Prod.snd <+:
          emitted site (before ++ .read task now :: rest) run := by
        rw [List.map_append, List.map_map]
        refine List.IsPrefix.trans ?_ (emitted_isPrefix site before (.read task now :: rest) run)
        rw [← hall]
        simp [Function.comp_def]
      obtain ⟨more, hmore⟩ := exists_more hpart
      exact ⟨now, _, cause, _, hmore, hreached.failure hfeed now more, shown_append ..⟩

/-- A task that is dropped stays where it was dropped. -/
theorem Admitted.pipeline_of_abort {before : List Action} (h : Admitted site before task run file)
    (rest : List Action) :
    pipeline site (before ++ .abort task :: rest) task = pipeline site before task := by
  obtain ⟨stage, ht, _⟩ := h.course
  have hended : ∃ result,
      ((after site before).step (.abort task)).1.tasks[task]? = some (.ended result) := by
    cases stage with
    | ended result => exact ⟨result, by rw [step_of_ended ht rfl, ht]⟩
    | _ => exact ⟨.cancelled, abort_tasks ht nofun⟩
  obtain ⟨result, hended⟩ := hended
  rw [pipeline_of_ended rfl hended, abort_pipeline, List.append_nil]

/-- While a run is in the slot, the slot holds its file. -/
theorem Admitted.file_eq (h : Admitted site actions task run file) {active : ActiveRun}
    (hslot : (after site actions).controller.slot = some active) (hid : active.id = run) :
    active.file = file := by
  subst hid
  exact (((describes actions hslot).file file).mp h.mem_admissions).symm

/-! ### The contract -/

/-- What the runs of a history do, and what makes them stop. -/
structure FollowsPipeline (site : Site) (actions : List Action) : Prop where
  /-- Every run that asked for a process has one task and one file. -/
  task : ∀ run file, (run, file) ∈ admissions (history site actions) →
    ∃! task, Admitted site actions task run file
  /-- The file is that of the document that was active when the run was admitted, and stays so. -/
  file : ∀ task run file, Admitted site actions task run file →
    (∃ before rest document, actions = before ++ .begin task :: rest ∧
      (after site before).editor.active = some document ∧ document.isTla = true ∧
      Controller.absolutePath site.workingDirectory document.path = file) ∧
    ∀ active, (after site actions).controller.slot = some active → active.id = run →
      active.file = file
  /-- All events of the run are its task's. -/
  events : ∀ task run file, Admitted site actions task run file →
    pipelineOf run (history site actions) = pipeline site actions task
  /-- They are the reference for the output of the run, up to some event. -/
  reference : ∀ task run file, Admitted site actions task run file →
    ∃ last output, output.map Prod.snd = emitted site actions run ∧
      pipeline site actions task <+: System.reference site run file last output
  /-- The display is opened only if the process has been spawned. -/
  opened : ∀ task run file, Admitted site actions task run file →
    (.revealEmpty run ∈ pipeline site actions task ↔
      ∃ before pid termination rest,
        actions = before ++ .spawned task (.process pid termination) :: rest ∧
          (after site before).tasks[task]? = some (.spawning run file))
  /-- Diagnostics are handed on only at the end of the reference, for output that has ended. -/
  applied : ∀ task run file diagnostics, Admitted site actions task run file →
    .apply run diagnostics ∈ pipeline site actions task →
    Whole site actions task run file diagnostics
  /-- The task completes with the whole reference, if the sink has accepted it. -/
  completed : ∀ task run file n, Admitted site actions task run file →
    ((after site actions).tasks[task]? = some (.ended (.checked (.completed n))) ↔
      Accepted site actions task ∧
        ∃ diagnostics, Whole site actions task run file diagnostics ∧ diagnostics.total = n)
  /-- A run whose process cannot be spawned stops there. -/
  spawnFailed : ∀ before rest task run file cause,
    actions = before ++ .spawned task (.failure cause) :: rest →
    Admitted site before task run file →
    (after site before).tasks[task]? = some (.spawning run file) →
    pipeline site actions task = [.spawn run checkerTool file checkerArguments]
  /-- A run whose output cannot be read stops after the snapshots that come before the failure. -/
  readFailed : ∀ before rest task run file now, actions = before ++ .read task now :: rest →
    Admitted site before task run file → Fails (after site before) (.read task now) run →
    ∃ last output cause delivered, output.map Prod.snd = emitted site actions run ∧
      parse last output (site.reader file) = (.error cause, delivered) ∧
      pipeline site actions task = shown run file delivered
  /-- A run whose task is dropped stops where it is. -/
  aborted : ∀ before rest task run file, actions = before ++ .abort task :: rest →
    Admitted site before task run file →
    pipeline site actions task = pipeline site before task

/-- In every history each run follows its pipeline. -/
theorem follows_pipeline (site : Site) (actions : List Action) : FollowsPipeline site actions where
  task := by
    intro run file hmem
    obtain ⟨task, hadmitted⟩ := exists_admitted hmem
    exact ⟨task, hadmitted, fun other hother => (hother.unique hadmitted (.inr rfl)).1⟩
  file := by
    intro task run file hadmitted
    refine ⟨?_, fun active => hadmitted.file_eq⟩
    obtain ⟨before, rest, hsplit, hadmits⟩ := hadmitted
    obtain ⟨document, hactive, htla, hpath⟩ := hadmits.document
    exact ⟨before, rest, document, hsplit, hactive, htla, hpath⟩
  events := by
    intro task run file hadmitted
    have hwhole : Admitted site (actions ++ []) task run file := by rwa [List.append_nil]
    exact hwhole.pipelineOf_history
  reference := by
    intro task run file hadmitted
    obtain ⟨stage, _, hcourse⟩ := hadmitted.course
    exact hcourse.isPrefix
  opened := fun task run file hadmitted => hadmitted.revealEmpty_iff
  applied := by
    intro task run file diagnostics hadmitted hmem
    obtain ⟨stage, _, hcourse⟩ := hadmitted.course
    exact hcourse.whole_of_mem hmem
  completed := fun task run file n hadmitted => hadmitted.completed_iff n
  spawnFailed := by
    rintro before rest task run file cause rfl hadmitted ht
    exact hadmitted.pipeline_of_spawn_failure ht cause rest
  readFailed := by
    rintro before rest task run file now rfl hadmitted hfails
    exact hadmitted.pipeline_of_read_failure hfails rest
  aborted := by
    rintro before rest task run file rfl hadmitted
    exact hadmitted.pipeline_of_abort rest

/-- The output arrives in two pieces, and the document is closed meanwhile. -/
example : pipeline workSite [.openDocument ⟨"/specs/Queue.tla"⟩, .request .check, .begin 0,
      .closeDocument, .spawned 0 (.process none .kill),
      .write 0 (.bytes "@!@!@STARTMSG 2185:0 @!@!@\nStar".toUTF8.toList), .read 0 ⟨0, 0, 0⟩,
      .write 0 (.bytes "ting...\n@!@!@ENDMSG 2185 @!@!@\n".toUTF8.toList), .endOutput 0,
      .read 0 ⟨0, 0, 0⟩, .applied 0 none] 0 =
    reference workSite 0 ⟨"/specs/Queue.tla"⟩ ⟨0, 0, 0⟩ [(⟨0, 0, 0⟩,
      .bytes "@!@!@STARTMSG 2185:0 @!@!@\nStarting...\n@!@!@ENDMSG 2185 @!@!@\n".toUTF8.toList)] := by
  decide +kernel

end System

end ModelCheck
