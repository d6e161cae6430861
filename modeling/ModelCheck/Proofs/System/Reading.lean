import ModelCheck.Proofs.System.SingleRun

/-!
# What a task reads

A task reads what arrives on the output of its process, and nothing else. A step leaves what has
arrived, adds a chunk to it, or hands all of it to the reader. So a reader has been fed chunks of
one process only, and a snapshot is parsed from the output of the run that it is displayed for.
-/

namespace ModelCheck

namespace Process

/-- Reporting an exit leaves what has arrived. -/
theorem report_arrived (exit : ProcessExit) (p : Process) :
    (p.report exit).arrived = p.arrived := by
  unfold report
  split <;> rfl

/-- Terminating a process leaves what has arrived. -/
theorem terminate_arrived (p : Process) : p.terminate.arrived = p.arrived := by
  unfold terminate
  split
  · exact report_arrived _ _
  · rfl
  · rfl

end Process

namespace System

variable {site : Site} {s s' : System} {a : Action}

/-- What has arrived for each process and has not been read. -/
def arrivals (s : System) : List (List Output.Chunk) := s.processes.map (·.arrived)

/-- What has arrived is found in the place of its process. -/
theorem arrivals_of_process {process : ProcessId} {p : Process}
    (h : s.processes[process]? = some p) : s.arrivals[process]? = some p.arrived := by
  rw [arrivals, List.getElem?_map, h, Option.map_some]

/-- Changing a process changes what has arrived for it, and for no other. -/
theorem arrivals_modifyProcess {f : Process → Process}
    {g : List Output.Chunk → List Output.Chunk} (process : ProcessId) (s : System)
    (h : ∀ p : Process, (f p).arrived = g p.arrived) :
    (s.modifyProcess process f).arrivals = s.arrivals.modify process g := by
  apply List.ext_getElem?
  intro i
  simp only [arrivals, modifyProcess_processes, List.getElem?_map, List.getElem?_modify]
  cases s.processes[i]? with
  | none => rfl
  | some p => by_cases hi : process = i <;> simp [hi, h]

/-- A change of a process that leaves what has arrived. -/
theorem arrivals_modifyProcess_of_same {f : Process → Process} (process : ProcessId) (s : System)
    (h : ∀ p : Process, (f p).arrived = p.arrived) :
    (s.modifyProcess process f).arrivals = s.arrivals := by
  rw [arrivals_modifyProcess process s (g := id) h, List.modify_id]

/-- Terminations leave what has arrived. -/
theorem arrivals_terminateAll (process : Option ProcessId) (s : System) :
    (s.terminateAll process).arrivals = s.arrivals := by
  cases process with
  | none => rfl
  | some p => exact arrivals_modifyProcess_of_same p s Process.terminate_arrived

/-- A check that fails leaves what has arrived. -/
theorem arrivals_failCheck (task : TaskId) (run : RunId) (e : CheckError) (s : System) :
    (s.failCheck task run e).1.arrivals = s.arrivals := by
  rw [failCheck_eq, arrivals_terminateAll]
  rfl

/-- A stop leaves what has arrived. -/
theorem arrivals_stop (s : System) : s.stop.1.arrivals = s.arrivals := by
  rw [stop_eq, arrivals_terminateAll]
  rfl

/-- For a process that has just been attached nothing has arrived. -/
theorem arrivals_attach (task : TaskId) (run : RunId) (file : Path) (pid : Option Nat)
    (termination : Termination) (s : System) :
    (s.attach task run file pid termination).1.arrivals = s.arrivals ++ [[]] := by
  have hnew : ∀ stopRequested, (newProcess run pid termination stopRequested).arrived = [] := by
    intro stopRequested
    unfold newProcess
    split
    · exact Process.terminate_arrived _
    · rfl
  rw [attach_eq]
  simp [arrivals, hnew]

/-- How a task comes to read with a reader, and with what has arrived for it. -/
inductive Reads (s : System) (a : Action) (task : TaskId) (run : RunId) (process : ProcessId) :
    Output.Reader → List Output.Chunk → Prop
  /-- The process has just been attached. -/
  | opened {file : Path} {pid : Option Nat} {termination : Termination}
      (ha : a = .spawned task (.process pid termination))
      (ht : s.tasks[task]? = some (.spawning run file)) :
      Reads s a task run process (s.site.reader file) []
  /-- Nothing has happened to the task and its process. -/
  | kept {reader : Output.Reader} {chunks : List Output.Chunk}
      (ht : s.tasks[task]? = some (.reading run process reader))
      (hc : s.arrivals[process]? = some chunks) : Reads s a task run process reader chunks
  /-- A chunk has arrived. -/
  | wrote {reader : Output.Reader} {chunks : List Output.Chunk} {chunk : Output.Chunk}
      (ha : a = .write process chunk) (ht : s.tasks[task]? = some (.reading run process reader))
      (hc : s.arrivals[process]? = some chunks) :
      Reads s a task run process reader (chunks ++ [chunk])
  /-- The task has read what had arrived. -/
  | read {reader : Output.Reader} {chunks : List Output.Chunk} {now : Moment}
      (ha : a = .read task now) (ht : s.tasks[task]? = some (.reading run process reader))
      (hc : s.arrivals[process]? = some chunks)
      (hfeed : (feedChunks now chunks reader).2.2 = none) :
      Reads s a task run process (feedChunks now chunks reader).1 []

/-- Two tasks that are attached have different processes. -/
theorem Consistent.process_ne (h : Consistent s) {t u : TaskId} {run run' : RunId}
    {process process' : ProcessId} (ht : s.role t = .attached run process)
    (hu : s.role u = .attached run' process') (hne : t ≠ u) : process ≠ process' := by
  rintro rfl
  obtain ⟨p, hget, rfl⟩ := h.attached_process ht
  obtain ⟨q, hq, rfl⟩ := h.attached_process hu
  rw [hget] at hq
  cases hq
  exact hne (h.role_unique (by rw [ht]; rfl) (by rw [hu]; rfl))

section Steps

variable {task : TaskId} {run : RunId} {process : ProcessId} {reader : Output.Reader}
  {chunks : List Output.Chunk}

/-- A step that moves a task elsewhere, and takes nothing that has arrived. -/
theorem reads_of_moved {t : TaskId} {old stage : Stage} (ht : s.tasks[t]? = some old)
    (ht' : s'.tasks[task]? = some (.reading run process reader))
    (hc' : s'.arrivals[process]? = some chunks) (htasks : s'.tasks = s.tasks.set t stage)
    (hstage : stage ≠ .reading run process reader) (harrivals : s'.arrivals = s.arrivals) :
    Reads s a task run process reader chunks := by
  rw [harrivals] at hc'
  rcases task_of_set ht htasks ht' with ⟨_, heq⟩ | ⟨hread, _⟩
  · exact absurd heq hstage
  · exact .kept hread hc'

/-- A step in which another task takes what has arrived for its process, which is another one. -/
theorem Consistent.reads_of_taken (h : Consistent s) {t : TaskId} {old : Stage} {other : RunId}
    {target : ProcessId} (ht : s.tasks[t]? = some old) (hold : old.role = .attached other target)
    (hread : s.tasks[task]? = some (.reading run process reader)) (hne : t ≠ task)
    (harrivals : s'.arrivals = s.arrivals.modify target fun _ => [])
    (hc' : s'.arrivals[process]? = some chunks) : Reads s a task run process reader chunks := by
  have htarget := h.process_ne ((role_of_task ht).trans hold) (role_of_task hread) hne
  rw [harrivals, List.getElem?_modify_ne _ _ htarget] at hc'
  exact .kept hread hc'

/-- A step in which a task takes what has arrived for its process, and leaves it. -/
theorem Consistent.reads_of_left (h : Consistent s) {t : TaskId} {old stage : Stage}
    {other : RunId} {target : ProcessId} (ht : s.tasks[t]? = some old)
    (hold : old.role = .attached other target)
    (ht' : s'.tasks[task]? = some (.reading run process reader))
    (hc' : s'.arrivals[process]? = some chunks) (htasks : s'.tasks = s.tasks.set t stage)
    (hstage : stage ≠ .reading run process reader)
    (harrivals : s'.arrivals = s.arrivals.modify target fun _ => []) :
    Reads s a task run process reader chunks := by
  rcases task_of_set ht htasks ht' with ⟨_, heq⟩ | ⟨hread, hne⟩
  · exact absurd heq hstage
  · exact h.reads_of_taken ht hold hread hne harrivals hc'

/-- A step that attaches a process. -/
theorem Consistent.reads_of_attach (h : Consistent s) {t : TaskId} {other : RunId} {file : Path}
    {pid : Option Nat} {termination : Termination}
    (ht : s.tasks[t]? = some (.spawning other file))
    (ht' : (s.attach t other file pid termination).1.tasks[task]? =
      some (.reading run process reader))
    (hc' : (s.attach t other file pid termination).1.arrivals[process]? = some chunks) :
    Reads s (.spawned t (.process pid termination)) task run process reader chunks := by
  have hlength : s.arrivals.length = s.processes.length := List.length_map _
  have htasks : (s.attach t other file pid termination).1.tasks =
      s.tasks.set t (.reading other s.processes.length (s.site.reader file)) := by
    rw [attach_eq]
    rfl
  rw [arrivals_attach] at hc'
  rcases task_of_set ht htasks ht' with ⟨rfl, hstage⟩ | ⟨hread, _⟩
  · cases hstage
    rw [← hlength, List.getElem?_concat_length] at hc'
    cases hc'
    exact .opened rfl ht
  · obtain ⟨p, hget, _⟩ := h.attached_process (role_of_task hread)
    have hlt : process < s.arrivals.length := by
      rw [hlength]
      exact (List.getElem?_eq_some_iff.mp hget).1
    rw [List.getElem?_append_left hlt] at hc'
    exact .kept hread hc'

/-- A step in which a task reads on. -/
theorem Consistent.reads_of_readOn (h : Consistent s) {t : TaskId} {other : RunId}
    {target : ProcessId} {before rest : Output.Reader} {p : Process} {now : Moment}
    {delivered : List Snapshot} (ht : s.tasks[t]? = some (.reading other target before))
    (hget : s.processes[target]? = some p)
    (hfeed : feedChunks now p.arrived before = (rest, delivered, none))
    (ht' : s'.tasks[task]? = some (.reading run process reader))
    (hc' : s'.arrivals[process]? = some chunks)
    (htasks : s'.tasks = s.tasks.set t (.reading other target rest))
    (harrivals : s'.arrivals = s.arrivals.modify target fun _ => []) :
    Reads s (.read t now) task run process reader chunks := by
  rcases task_of_set ht htasks ht' with ⟨rfl, hstage⟩ | ⟨hread, hne⟩
  · cases hstage
    have hc := arrivals_of_process hget
    rw [harrivals, List.getElem?_modify_eq, hc] at hc'
    cases hc'
    have hreads := Reads.read (a := .read t now) rfl ht hc (by rw [hfeed])
    rwa [hfeed] at hreads
  · exact h.reads_of_taken ht rfl hread hne harrivals hc'

/-- A step in which something is written to a process; it is lost if nobody reads. -/
theorem reads_of_write {target : ProcessId} {chunk : Output.Chunk}
    (ht : s.tasks[task]? = some (.reading run process reader))
    (hc' : (s.modifyProcess target (Process.write chunk)).arrivals[process]? = some chunks) :
    Reads s (.write target chunk) task run process reader chunks := by
  rw [arrivals, modifyProcess_processes, List.getElem?_map, List.getElem?_modify] at hc'
  cases hget : s.processes[process]? with
  | none => rw [hget] at hc'; cases hc'
  | some p =>
    have hc := arrivals_of_process hget
    rw [hget, Option.map_eq_map, Option.map_some, Option.map_some, Option.some.injEq] at hc'
    by_cases heq : target = process
    · rw [if_pos heq, Process.write] at hc'
      subst heq
      split at hc' <;> subst hc'
      · exact .wrote rfl ht hc
      · exact .kept ht hc
    · rw [if_neg heq] at hc'
      subst hc'
      exact .kept ht hc

/-- A task that reads after a transition began to read in it, or has read what had arrived, or has got
more to read, or is as it was. -/
theorem Consistent.reads_of_transition (h : Consistent s) {events : List Event}
    (htransition : Transition s a s' events)
    (ht' : s'.tasks[task]? = some (.reading run process reader))
    (hc' : s'.arrivals[process]? = some chunks) : Reads s a task run process reader chunks := by
  have hsame : s'.tasks = s.tasks → s'.arrivals = s.arrivals →
      Reads s a task run process reader chunks := by
    intro htasks harrivals
    rw [htasks] at ht'
    rw [harrivals] at hc'
    exact .kept ht' hc'
  cases htransition with
  | refused => exact hsame rfl rfl
  | opened path => exact hsame rfl rfl
  | closed => exact hsame rfl rfl
  | displayed => exact hsame rfl rfl
  | requested r =>
    rw [List.getElem?_append] at ht'
    split at ht'
    · exact .kept ht' hc'
    · rw [List.getElem?_singleton] at ht'
      split at ht' <;> cases ht'
  | stopped => exact hsame (stop_tasks s) (arrivals_stop s)
  | taskDisplayed ht => exact reads_of_moved ht ht' hc' rfl nofun rfl
  | @taskStopped t ht =>
    have htasks : (s.stop.1.setTask t (.ended (.stopped s.stop.2.2))).tasks =
        s.tasks.set t (.ended (.stopped s.stop.2.2)) := by rw [setTask_tasks, stop_tasks]
    exact reads_of_moved ht ht' hc' htasks nofun (arrivals_stop s)
  | waited ht => exact reads_of_moved ht ht' hc' rfl nofun rfl
  | woke ht hidle => exact reads_of_moved ht ht' hc' rfl nofun rfl
  | offered ht hr hm => exact reads_of_moved ht ht' hc' rfl nofun rfl
  | answered ht accepted => exact reads_of_moved ht ht' hc' rfl nofun rfl
  | rejected ht hr hm hreason => exact reads_of_moved ht ht' hc' rfl nofun rfl
  | reserved ht hr hm => exact reads_of_moved ht ht' hc' rfl nofun rfl
  | attached ht pid termination => exact h.reads_of_attach ht ht' hc'
  | spawnFailed ht cause =>
    exact reads_of_moved ht ht' hc' (failCheck_tasks ..) nofun (arrivals_failCheck ..)
  | readOn ht hget hfeed hopen =>
    exact h.reads_of_readOn ht hget hfeed ht' hc' rfl (arrivals_modifyProcess _ _ (fun _ => rfl))
  | readEnd ht hget hfeed hended =>
    exact h.reads_of_left ht rfl ht' hc' rfl nofun (arrivals_modifyProcess _ _ (fun _ => rfl))
  | readFailed ht hget hfeed =>
    refine h.reads_of_left ht rfl ht' hc' (failCheck_tasks ..) nofun ?_
    rw [arrivals_failCheck]
    exact arrivals_modifyProcess _ _ (fun _ => rfl)
  | applied ht => exact reads_of_moved ht ht' hc' rfl nofun rfl
  | applyFailed ht cause =>
    exact reads_of_moved ht ht' hc' (failCheck_tasks ..) nofun (arrivals_failCheck ..)
  | dropped ht hstage => exact reads_of_moved ht ht' hc' rfl nofun rfl
  | abandoned ht => exact reads_of_moved ht ht' hc' rfl nofun rfl
  | readingDropped ht =>
    refine h.reads_of_left ht rfl ht' hc' rfl nofun ?_
    rw [arrivals_modifyProcess_of_same _ _ Process.terminate_arrived]
    exact arrivals_modifyProcess _ _ (fun _ => rfl)
  | applyingDropped ht =>
    exact reads_of_moved ht ht' hc' rfl nofun
      (arrivals_modifyProcess_of_same _ _ Process.terminate_arrived)
  | wrote target chunk => exact reads_of_write ht' hc'
  | outputEnded target => exact hsame rfl (arrivals_modifyProcess_of_same _ _ (fun _ => rfl))
  | exited target exit =>
    exact hsame rfl (arrivals_modifyProcess_of_same _ _ (Process.report_arrived exit))
  | observed hget hhooked hexit =>
    exact hsame rfl (arrivals_modifyProcess_of_same _ _ (fun _ => rfl))

/-- A task that reads after a step has come to it in one of these ways. -/
theorem Consistent.reads_of_step (h : Consistent s)
    (ht' : (s.step a).1.tasks[task]? = some (.reading run process reader))
    (hc' : (s.step a).1.arrivals[process]? = some chunks) :
    Reads s a task run process reader chunks :=
  h.reads_of_transition (transition_step s a) ht' hc'

end Steps

/-! ### A run's own output -/

/-- What actions write to the output of a process. -/
def written (process : ProcessId) (actions : List Action) : List Output.Chunk :=
  actions.filterMap fun
    | .write target chunk => if target = process then some chunk else none
    | _ => none

/-- What has been written stays written. -/
theorem written_concat_sublist (process : ProcessId) (actions : List Action) (a : Action) :
    (written process actions).Sublist (written process (actions ++ [a])) := by
  unfold written
  rw [List.filterMap_append]
  exact List.sublist_append_left _ _

/-- What is written comes behind what has been written. -/
theorem written_concat_write (process : ProcessId) (actions : List Action)
    (chunk : Output.Chunk) :
    written process (actions ++ [.write process chunk]) = written process actions ++ [chunk] := by
  simp [written]

/-- A reader for a file that has been fed batches of chunks, each at its moment. -/
def readerAfter (site : Site) (file : Path) (batches : List (Moment × List Output.Chunk)) : Output.Reader :=
  batches.foldl (fun reader batch => (feedChunks batch.1 batch.2 reader).1) (site.reader file)

/-- A snapshot is delivered when chunks of output are read in some batches, by the last batch or at
the end after it. -/
def ParsedFrom (site : Site) (file : Path) (chunks : List Output.Chunk) (snapshot : Snapshot) : Prop :=
  ∃ (batches : List (Moment × List Output.Chunk)) (now : Moment) (last : List Output.Chunk),
    batches.flatMap Prod.snd ++ last = chunks ∧
      (snapshot ∈ (feedChunks now last (readerAfter site file batches)).2.1 ∨
        snapshot ∈ ((feedChunks now last (readerAfter site file batches)).1.finish now).2)

/-- A snapshot is parsed from what actions have written to the process of a run, for the file of
that run. -/
def OwnOutput (site : Site) (actions : List Action) (run : RunId) (snapshot : Snapshot) : Prop :=
  ∃ (process : ProcessId) (p : Process) (file : Path) (chunks : List Output.Chunk),
    (after site actions).processes[process]? = some p ∧ p.run = run ∧
      (run, file) ∈ admissions (history site actions) ∧
      chunks.Sublist (written process actions) ∧ ParsedFrom site file chunks snapshot

/-- A reader has been fed what was written to its process, in that order, for the file of its run;
what has arrived comes after that. -/
theorem fed_after (actions : List Action) {task : TaskId} {run : RunId} {process : ProcessId}
    {reader : Output.Reader} {chunks : List Output.Chunk}
    (ht' : (after site actions).tasks[task]? = some (.reading run process reader))
    (hc' : (after site actions).arrivals[process]? = some chunks) :
    ∃ file batches, (run, file) ∈ admissions (history site actions) ∧
      reader = readerAfter site file batches ∧
      (batches.flatMap Prod.snd ++ chunks).Sublist (written process actions) := by
  induction actions using List.reverseRecOn generalizing reader chunks with
  | nil => cases ht'
  | append_singleton actions a ih =>
    have h := consistent_after site actions
    have hmore : ∀ {file : Path}, (run, file) ∈ admissions (history site actions) →
        (run, file) ∈ admissions (history site (actions ++ [a])) := by
      intro file hmem
      rw [history_concat, admissions_append]
      exact List.mem_append_left _ hmem
    rw [after_concat] at ht' hc'
    cases h.reads_of_step ht' hc' with
    | @opened file pid termination ha ht =>
      obtain ⟨active, hslot, rfl, rfl, _⟩ := h.spawning_held (role_eq_spawning_iff.mpr ht)
      have hmem := (account site actions).held (active.id, active.file) (by simp [held, hslot])
      have hreader : (after site actions).site.reader active.file = site.reader active.file := by
        rw [site_after]
      exact ⟨active.file, [], hmore hmem, hreader, List.nil_sublist _⟩
    | kept ht hc =>
      obtain ⟨file, batches, hmem, hreader, hsub⟩ := ih ht hc
      exact ⟨file, batches, hmore hmem, hreader,
        hsub.trans (written_concat_sublist process actions a)⟩
    | @wrote _ _ chunk ha ht hc =>
      obtain ⟨file, batches, hmem, hreader, hsub⟩ := ih ht hc
      refine ⟨file, batches, hmore hmem, hreader, ?_⟩
      rw [ha, written_concat_write, ← List.append_assoc]
      exact hsub.append_right [chunk]
    | @read before chunks now ha ht hc hfeed =>
      obtain ⟨file, batches, hmem, rfl, hsub⟩ := ih ht hc
      refine ⟨file, batches ++ [(now, chunks)], hmore hmem, ?_, ?_⟩
      · simp [readerAfter]
      · simpa using hsub.trans (written_concat_sublist process actions a)

/-- A snapshot that came of a run's own output still does after any action. -/
theorem OwnOutput.concat {actions : List Action} {run : RunId} {snapshot : Snapshot}
    (h : OwnOutput site actions run snapshot) (a : Action) :
    OwnOutput site (actions ++ [a]) run snapshot := by
  obtain ⟨process, p, file, chunks, hget, hrun, hmem, hsub, hparsed⟩ := h
  obtain ⟨q, hq, hqrun⟩ := (change_after site actions a).process hget
  refine ⟨process, q, file, chunks, hq, hqrun.trans hrun, ?_,
    hsub.trans (written_concat_sublist process actions a), hparsed⟩
  rw [history_concat, admissions_append]
  exact List.mem_append_left _ hmem

/-- Every snapshot is parsed from the output of the run that it is displayed for. -/
theorem ownOutput_of_mem {actions : List Action} {run : RunId} {snapshot : Snapshot}
    (h : .update run snapshot ∈ ((after site actions).step a).2) :
    OwnOutput site actions run snapshot := by
  have hown : ∀ {task : TaskId} {process : ProcessId} {reader : Output.Reader} {p : Process}
      {now : Moment}, (after site actions).tasks[task]? = some (.reading run process reader) →
      (after site actions).processes[process]? = some p →
      (snapshot ∈ (feedChunks now p.arrived reader).2.1 ∨
        snapshot ∈ ((feedChunks now p.arrived reader).1.finish now).2) →
      OwnOutput site actions run snapshot := by
    intro task process reader p now ht hget hmem
    obtain ⟨file, batches, hadmitted, rfl, hsub⟩ := fed_after actions ht (arrivals_of_process hget)
    obtain ⟨q, hq, hrun⟩ := (consistent_after site actions).attached_process (role_of_task ht)
    exact ⟨process, q, file, _, hq, hrun, hadmitted, hsub, batches, now, p.arrived, rfl, hmem⟩
  cases cause_of_mem h with
  | other h => cases h
  | delivered ht hget hmem => exact hown ht hget (.inl hmem)
  | last ht hget hfeed hended hmem => exact hown ht hget (.inr hmem)

end System

end ModelCheck
