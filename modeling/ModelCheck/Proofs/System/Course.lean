import ModelCheck.Proofs.System.Decision
import ModelCheck.Proofs.System.Stream

/-!
# How far a run has come

A run asks for its process, opens the display, shows what the parser makes of the output of the
process, and hands on the diagnostics. This is its reference, computed from the output alone. At each
stage the task of a run has gone a known part of the way: what it has shown is what the parser
delivers for the output that it has read, and what has arrived behind that is the rest of the output.
-/

namespace ModelCheck

/-- The run whose pipeline an event belongs to. -/
def Event.pipelineRun? : Event → Option RunId
  | .spawn run _ _ _ => some run
  | .revealEmpty run => some run
  | .update run _ => some run
  | .apply run _ => some run
  | _ => none

/-- Whether an event belongs to the pipeline of a run. -/
def Event.isPipeline (e : Event) : Bool := e.pipelineRun?.isSome

namespace System

variable {site : Site} {s : System} {actions : List Action} {a : Action} {task : TaskId}
  {run : RunId} {file : Path} {stage : Stage} {events : List Event}

/-- The pipeline of a task: the part of its trace that belongs to the pipeline of a run. -/
def pipeline (site : Site) (actions : List Action) (task : TaskId) : List Event :=
  (trace site actions task).filter Event.isPipeline

/-- The events of a run whose display has been opened, and which has shown snapshots. -/
def shown (run : RunId) (file : Path) (delivered : List Snapshot) : List Event :=
  [.spawn run checkerTool file checkerArguments, .revealEmpty run] ++
    delivered.map (Event.update run)

/-- The reference of a run on a file for the output of its process, each chunk of it read at a
moment: the snapshots that the parser delivers are shown, and the diagnostics are handed on if the
output can be read to its end. -/
def reference (site : Site) (run : RunId) (file : Path) (last : Moment)
    (output : List (Moment × Output.Chunk)) : List Event :=
  match parse last output (site.reader file) with
  | (.ok read, delivered) => shown run file delivered ++ [.apply run read.diagnostics]
  | (.error _, delivered) => shown run file delivered

/-- Output that can be read to its end has its diagnostics at the end of the reference. -/
theorem reference_of_ok {last : Moment} {output : List (Moment × Output.Chunk)} {read : Output}
    {delivered : List Snapshot} (h : parse last output (site.reader file) = (.ok read, delivered)) :
    reference site run file last output =
      shown run file delivered ++ [.apply run read.diagnostics] := by
  rw [reference, h]

/-- Output that cannot be read to its end has no diagnostics in the reference. -/
theorem reference_of_error {last : Moment} {output : List (Moment × Output.Chunk)} {cause : String}
    {delivered : List Snapshot} (h : parse last output (site.reader file) = (.error cause, delivered)) :
    reference site run file last output = shown run file delivered := by
  rw [reference, h]

/-- The reference begins with the snapshots that the parser delivers for a part of the output. -/
theorem shown_isPrefix {last : Moment} {output : List (Moment × Output.Chunk)}
    {delivered : List Snapshot} (h : delivered <+: (parse last output (site.reader file)).2) :
    shown run file delivered <+: reference site run file last output := by
  have hshown : ∀ {all : List Snapshot}, delivered <+: all →
      shown run file delivered <+: shown run file all := fun hall =>
    (List.prefix_append_right_inj _).mpr (hall.map _)
  rcases hparse : parse last output (site.reader file) with ⟨result, all⟩
  rw [hparse] at h
  cases result with
  | ok read => rw [reference_of_ok hparse]; exact (hshown h).trans (List.prefix_append _ _)
  | error cause => rw [reference_of_error hparse]; exact hshown h

/-! ### How far a run has come -/

/-- The output of a run has ended, and the parser has made this of all of it. -/
structure ParsedAll (site : Site) (actions : List Action) (run : RunId) (file : Path) (read : Output)
    (delivered : List Snapshot) : Prop where
  ended : ∃ (process : ProcessId) (p : Process), (after site actions).processes[process]? = some p ∧
    p.run = run ∧ p.writable = false
  parsed : ∃ last output, output.map Prod.snd = emitted site actions run ∧
    parse last output (site.reader file) = (.ok read, delivered)

/-- In a history the sink has accepted the diagnostics of a task. -/
def Accepted (site : Site) (actions : List Action) (task : TaskId) : Prop :=
  ∃ (before rest : List Action) (run : RunId) (process : ProcessId) (total : Nat),
    actions = before ++ .applied task none :: rest ∧
      (after site before).tasks[task]? = some (.applying run process total)

/-- How far the task of a run has come, by its stage, with its pipeline. What a reader has taken and
what has arrived behind that is all the output of the run. -/
inductive Course (site : Site) (actions : List Action) (task : TaskId) (run : RunId) (file : Path) :
    Stage → List Event → Prop
  | spawning :
      Course site actions task run file (.spawning run file)
        [.spawn run checkerTool file checkerArguments]
  | spawnFailed (message : String) :
      Course site actions task run file (.ended (.checked (.failed message)))
        [.spawn run checkerTool file checkerArguments]
  | abandoned :
      Course site actions task run file (.ended .cancelled)
        [.spawn run checkerTool file checkerArguments]
  | reading {process : ProcessId} {p : Process} {reader : Output.Reader}
      {taken : List (Moment × Output.Chunk)} {delivered : List Snapshot}
      (hget : (after site actions).processes[process]? = some p) (hreadable : p.readable = true)
      (hreached : Reached site file taken reader delivered)
      (hall : taken.map Prod.snd ++ p.arrived = emitted site actions run) :
      Course site actions task run file (.reading run process reader) (shown run file delivered)
  | readFailed {taken : List (Moment × Output.Chunk)} {delivered : List Snapshot} {cause : String}
      (message : String)
      (hfailed : ∀ last more, parse last (taken ++ more) (site.reader file) = (.error cause, delivered))
      (hpart : taken.map Prod.snd <+: emitted site actions run) :
      Course site actions task run file (.ended (.checked (.failed message)))
        (shown run file delivered)
  | readingDropped {taken : List (Moment × Output.Chunk)} {reader : Output.Reader}
      {delivered : List Snapshot} (hreached : Reached site file taken reader delivered)
      (hpart : taken.map Prod.snd <+: emitted site actions run) :
      Course site actions task run file (.ended .cancelled) (shown run file delivered)
  | applying {process : ProcessId} {read : Output} {delivered : List Snapshot}
      (hparsed : ParsedAll site actions run file read delivered) :
      Course site actions task run file (.applying run process read.diagnostics.total)
        (shown run file delivered ++ [.apply run read.diagnostics])
  | completed {read : Output} {delivered : List Snapshot}
      (hparsed : ParsedAll site actions run file read delivered)
      (haccepted : Accepted site actions task) :
      Course site actions task run file (.ended (.checked (.completed read.diagnostics.total)))
        (shown run file delivered ++ [.apply run read.diagnostics])
  | applyFailed {read : Output} {delivered : List Snapshot} (message : String)
      (hparsed : ParsedAll site actions run file read delivered) :
      Course site actions task run file (.ended (.checked (.failed message)))
        (shown run file delivered ++ [.apply run read.diagnostics])
  | applyingDropped {read : Output} {delivered : List Snapshot}
      (hparsed : ParsedAll site actions run file read delivered) :
      Course site actions task run file (.ended .cancelled)
        (shown run file delivered ++ [.apply run read.diagnostics])

/-! ### The steps of others -/

/-- To output that has ended nothing is added. -/
theorem ParsedAll.concat {read : Output} {delivered : List Snapshot}
    (h : ParsedAll site actions run file read delivered) (a : Action) :
    ParsedAll site (actions ++ [a]) run file read delivered := by
  have hconsistent := consistent_after site actions
  obtain ⟨process, p, hget, hrun, hclosed⟩ := h.ended
  obtain ⟨last, output, hall, hparse⟩ := h.parsed
  constructor
  · obtain ⟨q, hq, htouches⟩ := hconsistent.process_step a hget
    rw [after_concat]
    exact ⟨process, q, hq, htouches.kept.run.trans hrun, htouches.kept.closed hclosed⟩
  · refine ⟨last, output, ?_, hparse⟩
    rw [emitted_concat, emits_of_closed, List.append_nil, hall]
    intro other q hq hqrun
    have heq := hconsistent.process_unique hq hget (hqrun.trans hrun.symm)
    subst heq
    rw [hget] at hq
    cases hq
    exact hclosed

/-- What the sink has accepted stays accepted. -/
theorem Accepted.concat (h : Accepted site actions task) (a : Action) :
    Accepted site (actions ++ [a]) task := by
  obtain ⟨before, rest, run, process, total, rfl, ht⟩ := h
  exact ⟨before, rest ++ [a], run, process, total, by simp, ht⟩

/-- The output of a run grows at its end. -/
theorem emitted_isPrefix (site : Site) (before rest : List Action) (run : RunId) :
    emitted site before run <+: emitted site (before ++ rest) run := by
  rw [emitted, emitted, collect_append]
  exact List.prefix_append _ _

/-- A step that leaves the task where it is leaves its course, if what is written to the process
that it reads from arrives there. -/
theorem Course.concat (h : Course site actions task run file stage events) (a : Action)
    (hread : ∀ {process : ProcessId} {reader : Output.Reader} {p : Process},
      stage = .reading run process reader → (after site actions).processes[process]? = some p →
      ∃ q, ((after site actions).step a).1.processes[process]? = some q ∧
        p.Fed q (emits run (after site actions) a)) :
    Course site (actions ++ [a]) task run file stage events := by
  cases h with
  | spawning => exact .spawning
  | spawnFailed message => exact .spawnFailed message
  | abandoned => exact .abandoned
  | @reading process p reader taken delivered hget hreadable hreached hall =>
    obtain ⟨q, hq, hfed⟩ := hread rfl hget
    rw [← after_concat] at hq
    refine .reading hq (hfed.readable.trans hreadable) hreached ?_
    rw [hfed.arrived hreadable, ← List.append_assoc, hall, emitted_concat]
  | readFailed message hfailed hpart =>
    exact .readFailed message hfailed (hpart.trans (emitted_isPrefix site actions [a] run))
  | readingDropped hreached hpart =>
    exact .readingDropped hreached (hpart.trans (emitted_isPrefix site actions [a] run))
  | applying hparsed => exact .applying (hparsed.concat a)
  | completed hparsed haccepted => exact .completed (hparsed.concat a) (haccepted.concat a)
  | applyFailed message hparsed => exact .applyFailed message (hparsed.concat a)
  | applyingDropped hparsed => exact .applyingDropped (hparsed.concat a)

/-- The steps of others leave a task on its course, since they only feed its process. -/
theorem Course.other (h : Course site actions task run file stage events)
    (ht : (after site actions).tasks[task]? = some stage) (ha : a.task? ≠ some task) :
    Course site (actions ++ [a]) task run file stage events := by
  have hconsistent := consistent_after site actions
  refine h.concat a ?_
  rintro process reader p rfl hget
  have hrole : (after site actions).role task = .attached run process := role_of_task ht
  obtain ⟨q, hq, hrun⟩ := hconsistent.attached_process hrole
  rw [hget] at hq
  cases hq
  have hfed := hconsistent.fed_of_ne hrole ha hget
  rwa [hrun] at hfed

/-- A step that does nothing leaves a task on its course. -/
theorem Course.refused (h : Course site actions task run file stage events)
    (hstep : (after site actions).step a = (after site actions, [])) (ha : a.task? = some task) :
    Course site (actions ++ [a]) task run file stage events := by
  refine h.concat a ?_
  intro process reader p _ hget
  rw [hstep, emits_of_task ha]
  exact ⟨p, hget, .refl p⟩

/-! ### The steps of the task -/

/-- Updates of the display all belong to the pipeline. -/
theorem filter_isPipeline_update (run : RunId) (delivered : List Snapshot) :
    (delivered.map (Event.update run)).filter Event.isPipeline =
      delivered.map (Event.update run) := by
  rw [List.filter_eq_self]
  intro e he
  obtain ⟨snapshot, _, rfl⟩ := List.mem_map.mp he
  rfl

/-- A check that fails does nothing for the pipeline. -/
theorem failCheck_pipeline (task : TaskId) (run : RunId) (e : CheckError) (s : System) :
    (s.failCheck task run e).2.filter Event.isPipeline = [] := by
  rw [failCheck_eq]
  rcases s.controller.fail_events run with hevents | hevents <;>
    cases (s.controller.fail run).2.2 <;> rw [hevents] <;> rfl

/-- A task that is dropped shows the idle indicator, or terminates its process, or does nothing. -/
theorem abort_events (task : TaskId) (s : System) :
    (s.step (.abort task)).2 = [] ∨ (s.step (.abort task)).2 = [.showStatus (statusItem false)] ∨
      ∃ process, (s.step (.abort task)).2 = [.terminate process] := by
  simp only [step, abort]
  split
  · exact .inl rfl
  · exact .inl rfl
  · next run file ht =>
    rcases s.controller.abandon_events run with hevents | hevents
    · exact .inl hevents
    · exact .inr (.inl hevents)
  · exact .inr (.inr ⟨_, rfl⟩)
  · exact .inr (.inr ⟨_, rfl⟩)
  · exact .inl rfl

/-- A task that is dropped does nothing for the pipeline. -/
theorem abort_pipeline (task : TaskId) (s : System) :
    (s.step (.abort task)).2.filter Event.isPipeline = [] := by
  rcases abort_events task s with hevents | hevents | ⟨process, hevents⟩ <;> rw [hevents] <;> rfl

/-- The launcher answers: the display is opened, or the run fails. -/
theorem Course.spawned (ht : (after site actions).tasks[task]? = some (.spawning run file))
    (result : Spawned) :
    ∃ next, ((after site actions).step (.spawned task result)).1.tasks[task]? = some next ∧
      Course site (actions ++ [.spawned task result]) task run file next
        ([.spawn run checkerTool file checkerArguments] ++
          ((after site actions).step (.spawned task result)).2.filter Event.isPipeline) := by
  have h := consistent_after site actions
  cases result with
  | process pid termination =>
    obtain ⟨active, hslot, rfl, hnone, hprocesses, hevents⟩ := h.step_spawned ht pid termination
    refine ⟨.reading active.id (after site actions).processes.length (site.reader file), ?_, ?_⟩
    · simp only [step, ht, System.spawned, attach_tasks, site_after]
      exact task_setTask ht _
    · have hfed : (Process.spawned active.id pid termination).Fed
          (newProcess active.id pid termination active.stopRequested) [] := by
        unfold newProcess
        split
        · exact Process.fed_terminate _
        · exact .refl _
      have hempty : emitted site actions active.id = [] :=
        emitted_of_no_process actions fun _ _ hget => h.run_ne_of_slot hslot hnone hget
      have hpipeline : ((after site actions).step
          (.spawned task (.process pid termination))).2.filter Event.isPipeline =
            [.revealEmpty active.id] := by
        rw [hevents]
        split <;> rfl
      rw [hpipeline]
      refine .reading ?_ (hfed.readable.trans rfl) (reached_start site file) ?_
      · rw [after_concat, hprocesses, List.getElem?_concat_length]
      · rw [hfed.arrived rfl, emitted_concat, hempty]
        rfl
  | failure cause =>
    have hstep : (after site actions).step (.spawned task (.failure cause)) =
        (after site actions).failCheck task run (.spawn checkerTool cause) := by
      simp only [step, ht, System.spawned]
    rw [hstep, failCheck_pipeline, List.append_nil]
    exact ⟨_, failCheck_ended ht .., .spawnFailed _⟩

section Read

variable {process : ProcessId} {reader reader' : Output.Reader} {p : Process} {now : Moment}
  {taken : List (Moment × Output.Chunk)} {delivered others : List Snapshot}

/-- Snapshots that are delivered later are shown behind the others. -/
theorem shown_append (run : RunId) (file : Path) (delivered others : List Snapshot) :
    shown run file delivered ++ others.map (Event.update run) =
      shown run file (delivered ++ others) := by
  rw [shown, shown, List.map_append, List.append_assoc]

/-- The task reads: it shows what the parser delivers, and fails, reads on, or hands on the
diagnostics. -/
theorem Course.read (ht : (after site actions).tasks[task]? = some (.reading run process reader))
    (hget : (after site actions).processes[process]? = some p) (hreadable : p.readable = true)
    (hreached : Reached site file taken reader delivered)
    (hall : taken.map Prod.snd ++ p.arrived = emitted site actions run) (now : Moment) :
    ∃ next, ((after site actions).step (.read task now)).1.tasks[task]? = some next ∧
      Course site (actions ++ [.read task now]) task run file next
        (shown run file delivered ++
          ((after site actions).step (.read task now)).2.filter Event.isPipeline) := by
  obtain ⟨q, hq, hrun⟩ := (consistent_after site actions).attached_process (role_of_task ht)
  rw [hget] at hq
  cases hq
  -- what the reader has taken after this step is all the output
  have hall' : (taken ++ p.arrived.map fun chunk => (now, chunk)).map Prod.snd =
      emitted site (actions ++ [.read task now]) run := by
    rw [emitted_concat, ← hall, List.map_append, List.map_map]
    simp [emits, Function.comp_def]
  rcases hfeed : feedChunks now p.arrived reader with ⟨reader', others, failure⟩
  cases failure with
  | some cause =>
    have hstep := step_read_of_failure ht hget hfeed
    rw [hstep, List.filter_append, filter_isPipeline_update, failCheck_pipeline, List.append_nil,
      shown_append]
    exact ⟨_, failCheck_ended (by exact ht) ..,
      .readFailed _ (hreached.failure hfeed) (hall' ▸ List.prefix_rfl)⟩
  | none =>
    cases hopen : p.writable with
    | true =>
      have hstep := step_read_of_open ht hget hfeed hopen
      rw [hstep, filter_isPipeline_update, shown_append]
      refine ⟨_, task_setTask (by exact ht) _, ?_⟩
      refine .reading (p := { p with arrived := [] }) ?_ hreadable (hreached.batch hfeed) ?_
      · rw [after_concat, hstep, setTask_processes, modifyProcess_processes,
          List.getElem?_modify_eq, hget]
        rfl
      · rw [hall', List.append_nil]
    | false =>
      have hstep := step_read_of_ended ht hget hfeed hopen
      have happly : [Event.apply run (reader'.finish now).1.diagnostics].filter Event.isPipeline =
          [.apply run (reader'.finish now).1.diagnostics] := rfl
      rw [hstep, List.filter_append, List.filter_append, filter_isPipeline_update,
        filter_isPipeline_update, happly, ← List.append_assoc, ← List.append_assoc, shown_append,
        shown_append]
      refine ⟨_, task_setTask (by exact ht) _, .applying ⟨?_, now, _, hall', ?_⟩⟩
      · refine ⟨process, { p with arrived := [], readable := false }, ?_, hrun, hopen⟩
        rw [after_concat, hstep, setTask_processes, modifyProcess_processes,
          List.getElem?_modify_eq, hget]
        rfl
      · exact (hreached.batch hfeed).finish now

end Read

/-- The sink answers: the task completes, or the run fails. -/
theorem Course.applied {process : ProcessId} {read : Output} {delivered : List Snapshot}
    (ht : (after site actions).tasks[task]? =
      some (.applying run process read.diagnostics.total))
    (hparsed : ParsedAll site actions run file read delivered) (failure : Option Failure) :
    ∃ next, ((after site actions).step (.applied task failure)).1.tasks[task]? = some next ∧
      Course site (actions ++ [.applied task failure]) task run file next
        (shown run file delivered ++ [.apply run read.diagnostics] ++
          ((after site actions).step (.applied task failure)).2.filter Event.isPipeline) := by
  have hstep : (after site actions).step (.applied task failure) =
      (after site actions).applied task run read.diagnostics.total failure := by
    simp only [step, ht]
  rw [hstep]
  cases failure with
  | none =>
    have haccepted : Accepted site (actions ++ [.applied task none]) task :=
      ⟨actions, [], run, process, _, rfl, ht⟩
    rw [System.applied, List.filter_nil, List.append_nil]
    exact ⟨_, task_setTask ht _, .completed (hparsed.concat _) haccepted⟩
  | some cause =>
    rw [System.applied, failCheck_pipeline, List.append_nil]
    exact ⟨_, failCheck_ended ht .., .applyFailed _ (hparsed.concat _)⟩

/-- A task that is dropped has ended. -/
theorem abort_tasks (ht : s.tasks[task]? = some stage) (h : ∀ result, stage ≠ .ended result) :
    (s.step (.abort task)).1.tasks[task]? = some (.ended .cancelled) := by
  cases stage with
  | ended result => exact absurd rfl (h result)
  | _ =>
    simp only [step, abort, ht, terminate]
    exact task_setTask ht _

/-- A task that is dropped has come as far as it had. -/
theorem Course.aborted (h : Course site actions task run file stage events)
    (hstage : ∀ result, stage ≠ .ended result) (a : Action) :
    Course site (actions ++ [a]) task run file (.ended .cancelled) events := by
  cases h with
  | spawning => exact .abandoned
  | reading hget hreadable hreached hall =>
    refine .readingDropped hreached (List.IsPrefix.trans ?_ (emitted_isPrefix site actions [a] run))
    rw [← hall]
    exact List.prefix_append _ _
  | applying hparsed => exact .applyingDropped (hparsed.concat a)
  | spawnFailed message => exact absurd rfl (hstage _)
  | abandoned => exact absurd rfl (hstage _)
  | readFailed message hfailed hpart => exact absurd rfl (hstage _)
  | readingDropped hreached hpart => exact absurd rfl (hstage _)
  | completed hparsed haccepted => exact absurd rfl (hstage _)
  | applyFailed message hparsed => exact absurd rfl (hstage _)
  | applyingDropped hparsed => exact absurd rfl (hstage _)

/-- Every step that the task of a run waits for takes it further. -/
theorem Course.own (h : Course site actions task run file stage events)
    (ht : (after site actions).tasks[task]? = some stage) (hawaits : Awaits task stage a) :
    ∃ next, ((after site actions).step a).1.tasks[task]? = some next ∧
      Course site (actions ++ [a]) task run file next
        (events ++ ((after site actions).step a).2.filter Event.isPipeline) := by
  cases hawaits with
  | begin r => cases h
  | answer accepted => cases h
  | wake => cases h
  | spawned run' file' result => cases h with | spawning => exact Course.spawned ht result
  | read run' process reader now =>
    cases h with
    | reading hget hreadable hreached hall => exact Course.read ht hget hreadable hreached hall now
  | applied run' process total failure =>
    cases h with | applying hparsed => exact Course.applied ht hparsed failure
  | abort hstage =>
    rw [abort_pipeline, List.append_nil]
    exact ⟨_, abort_tasks ht hstage, h.aborted hstage _⟩

/-- The task of every run that was admitted has come some way along the pipeline. -/
theorem Admitted.course (h : Admitted site actions task run file) :
    ∃ stage, (after site actions).tasks[task]? = some stage ∧
      Course site actions task run file stage (pipeline site actions task) := by
  refine Admitted.induction
    (P := fun actions stage => Course site actions task run file stage (pipeline site actions task))
    (fun hadmits => ?begin) (fun ht ha h => ?other) (fun hstep ha h => ?refused)
    (fun ht hawaits h => ?own) h
  case begin =>
    rw [pipeline, hadmits.requested.trace, hadmits.step]
    exact .spawning
  case other =>
    rw [pipeline, trace_concat_of_ne _ ha]
    exact h.other ht ha
  case refused =>
    rw [pipeline, trace_concat_of_silent _ (by rw [hstep])]
    exact h.refused hstep ha
  case own =>
    rw [pipeline, trace_concat_of_task _ hawaits.task_eq, List.filter_append]
    exact h.own ht hawaits

end System

end ModelCheck
