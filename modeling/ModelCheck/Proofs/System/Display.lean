import ModelCheck.Proofs.System.Reading

/-!
# What the user sees of a run

A run leaves the slot when its process exits, and its task may still read what the process has
written. So the display that is opened for the next run may be updated for the earlier one, and the
diagnostics of the earlier run may be applied late. This can happen exactly when a task of another
run is still reading at that moment, unless what has arrived for it cannot be read anyway.
-/

namespace ModelCheck

/-- Whether an event opens the display for a run. -/
def Event.isRevealEmpty : Event → Bool
  | .revealEmpty _ => true
  | _ => false

namespace System

variable {site : Site} {s s' : System} {a : Action} {run : RunId}

/-- The events up to the next opening of the display. -/
def upToReveal (events : List Event) : List Event := events.takeWhile fun e => !e.isRevealEmpty

/-- What comes up to the next opening is among the events. -/
theorem mem_of_mem_upToReveal {events : List Event} {e : Event} (h : e ∈ upToReveal events) :
    e ∈ events := (List.takeWhile_sublist _).subset h

/-- What comes after more events comes up to the next opening only if none of them opens it. -/
theorem mem_upToReveal_append {events more : List Event} {e : Event}
    (h : e ∈ upToReveal (events ++ more)) :
    e ∈ upToReveal events ∨ (events.all (fun e => !e.isRevealEmpty)) ∧ e ∈ more := by
  unfold upToReveal at h ⊢
  rw [List.takeWhile_append] at h
  split at h
  · next hlength =>
    have hall := (List.takeWhile_sublist _).eq_of_length hlength
    rcases List.mem_append.mp h with h | h
    · exact .inl (by rwa [hall])
    · refine .inr ⟨?_, (List.takeWhile_sublist _).subset h⟩
      rw [← hall]
      exact List.all_takeWhile
  · exact .inl h

/-- After the display was opened for a run: until it is opened again it is updated from the run's
own output only, and no diagnostics of a run that was admitted earlier are applied. -/
structure Undisturbed (site : Site) (before rest : List Action) (run : RunId) : Prop where
  updates : ∀ other snapshot,
    .update other snapshot ∈ upToReveal ((after site before).run rest).2 →
    other = run ∧ OwnOutput site (before ++ rest) run snapshot
  diagnostics : ∀ other collection,
    .apply other collection ∈ ((after site before).run rest).2 → run ≤ other

/-- What has arrived cannot be read, and gives no snapshot before that. -/
def FailsSilently (chunks : List Output.Chunk) (reader : Output.Reader) : Prop :=
  ∀ now, (feedChunks now chunks reader).2.1 = [] ∧ (feedChunks now chunks reader).2.2 ≠ none

/-- No other run is being read, except to a failure that waits for its reader. -/
def Alone (s : System) (run : RunId) : Prop :=
  ∀ (task : TaskId) (other : RunId) (process : ProcessId) (reader : Output.Reader)
    (chunks : List Output.Chunk), s.tasks[task]? = some (.reading other process reader) →
    s.arrivals[process]? = some chunks → other ≠ run → FailsSilently chunks reader

/-- Bytes are read first, and then the chunks behind them. -/
theorem feedChunks_bytes (now : Moment) (content : Text.Bytes) (rest : List Output.Chunk)
    (reader : Output.Reader) :
    feedChunks now (.bytes content :: rest) reader =
      ((feedChunks now rest (reader.feed now content).1).1,
        (reader.feed now content).2 ++ (feedChunks now rest (reader.feed now content).1).2.1,
        (feedChunks now rest (reader.feed now content).1).2.2) := rfl

/-- More that arrives after a failure is not read. -/
theorem feedChunks_append_of_failure (now : Moment) (chunks more : List Output.Chunk)
    (reader : Output.Reader) (h : (feedChunks now chunks reader).2.2 ≠ none) :
    feedChunks now (chunks ++ more) reader = feedChunks now chunks reader := by
  induction chunks generalizing reader with
  | nil => exact absurd rfl h
  | cons chunk rest ih =>
    cases chunk with
    | failure cause => rfl
    | bytes content =>
      have hrest := ih (reader.feed now content).1 h
      rw [List.cons_append, feedChunks_bytes, feedChunks_bytes, hrest]

/-- What arrives behind a failure that waits for its reader gives no snapshot either. -/
theorem FailsSilently.append {chunks : List Output.Chunk} {reader : Output.Reader}
    (h : FailsSilently chunks reader) (more : List Output.Chunk) :
    FailsSilently (chunks ++ more) reader := by
  intro now
  rw [feedChunks_append_of_failure now chunks more reader (h now).2]
  exact h now

/-! ### Alone on the display -/

/-- What makes sure that a run has the display to itself after events: tasks of earlier runs read to
a failure only, and until the display is opened again no later run is read. -/
structure Owns (s : System) (run : RunId) (events : List Event) : Prop where
  lt : run < s.controller.nextRun
  earlier : ∀ {task : TaskId} {other : RunId} {process : ProcessId} {reader : Output.Reader}
    {chunks : List Output.Chunk}, s.tasks[task]? = some (.reading other process reader) →
    s.arrivals[process]? = some chunks → other < run → FailsSilently chunks reader
  later : (events.all fun e => !e.isRevealEmpty) → ∀ {task : TaskId} {other : RunId}
    {process : ProcessId} {reader : Output.Reader},
    s.tasks[task]? = some (.reading other process reader) → other ≤ run

/-- The run for which the display is opened is the last that was admitted. -/
theorem Consistent.nextRun_of_reveal (h : Consistent s) (he : .revealEmpty run ∈ (s.step a).2) :
    (s.step a).1.controller.nextRun = run + 1 := by
  cases cause_of_mem he with
  | other h => cases h
  | @attached task run file pid termination ht =>
    obtain ⟨active, hslot, rfl, rfl, _⟩ := h.spawning_held (role_eq_spawning_iff.mpr ht)
    have hattach := Controller.attach_of_held hslot active.file s.processes.length pid
    simp only [System.step, ht, spawned, attach_eq, hattach]
    exact h.held_last hslot

/-- The last run that was admitted has the display to itself if it is alone. -/
theorem Consistent.owns_of_alone (h : Consistent s) (hlast : s.controller.nextRun = run + 1)
    (halone : Alone s run) : Owns s run [] := by
  refine ⟨?_, ?_, ?_⟩
  · rw [hlast]
    exact Nat.lt_succ_self _
  · intro task other process reader chunks ht hc hlt
    exact halone task other process reader chunks ht hc (Nat.ne_of_lt hlt)
  · intro _ task other process reader ht
    have hlt := h.run_lt (role_of_task ht) rfl
    rw [hlast] at hlt
    exact Nat.le_of_lt_succ hlt

/-- A step keeps it so. -/
theorem Owns.step {events : List Event} (h : Owns s run events) (hs : Consistent s) (a : Action) :
    Owns (s.step a).1 run (events ++ (s.step a).2) := by
  refine ⟨?lt, ?earlier, ?later⟩
  case lt => exact Nat.lt_of_lt_of_le h.lt (hs.change_step a).nextRun_le
  case earlier =>
    intro task other process reader chunks ht' hc' hlt
    cases hs.reads_of_step ht' hc' with
    | opened ha ht =>
      -- the run that is attached is the last one, so it is not earlier
      obtain ⟨active, hslot, rfl, _⟩ := hs.spawning_held (role_eq_spawning_iff.mpr ht)
      have hlast := h.lt
      rw [hs.held_last hslot] at hlast
      exact absurd hlt (Nat.not_lt_of_le (Nat.le_of_lt_succ hlast))
    | kept ht hc => exact h.earlier ht hc hlt
    | wrote ha ht hc => exact (h.earlier ht hc hlt).append _
    | read ha ht hc hfeed => exact absurd hfeed (h.earlier ht hc hlt _).2
  case later =>
    intro hnone task other process reader ht'
    rw [List.all_append, Bool.and_eq_true] at hnone
    obtain ⟨p, hget, _⟩ := (hs.step a).attached_process (role_of_task ht')
    have hreads := hs.reads_of_step ht' (arrivals_of_process hget)
    generalize p.arrived = chunks at hreads
    cases hreads with
    | @opened file pid termination ha ht =>
      obtain ⟨_, _, _, _, _, hevents⟩ := hs.step_spawned ht pid termination
      have hmem : .revealEmpty other ∈ (s.step a).2 := by
        rw [ha, hevents]
        exact List.mem_append_right _ List.mem_cons_self
      have hfalse := List.all_eq_true.mp hnone.2 _ hmem
      cases hfalse
    | kept ht hc => exact h.later hnone.1 ht
    | wrote ha ht hc => exact h.later hnone.1 ht
    | read ha ht hc hfeed => exact h.later hnone.1 ht

/-- What a step displays before the display is opened again is the run's. -/
theorem Owns.update_eq {events : List Event} (h : Owns s run events)
    (hnone : events.all fun e => !e.isRevealEmpty) {other : RunId} {snapshot : Snapshot}
    (he : .update other snapshot ∈ (s.step a).2) : other = run := by
  cases cause_of_mem he with
  | other h => cases h
  | @delivered task other process reader p now snapshot ht hget hmem =>
    rcases Nat.lt_or_eq_of_le (h.later hnone ht) with hlt | heq
    · rw [(h.earlier ht (arrivals_of_process hget) hlt now).1] at hmem
      cases hmem
    · exact heq
  | last ht hget hfeed hended hmem =>
    rcases Nat.lt_or_eq_of_le (h.later hnone ht) with hlt | heq
    · exact absurd hfeed (h.earlier ht (arrivals_of_process hget) hlt _).2
    · exact heq

/-- What a step applies is not an earlier run's. -/
theorem Owns.le_of_apply {events : List Event} (h : Owns s run events) {other : RunId}
    {collection : Collection} (he : .apply other collection ∈ (s.step a).2) : run ≤ other := by
  cases cause_of_mem he with
  | other h => cases h
  | applied ht hget hfeed hended =>
    by_contra hlt
    have hsilent := h.earlier ht (arrivals_of_process hget) (Nat.lt_of_not_le hlt)
    exact (hsilent _).2 hfeed

/-- A run that is alone on the display stays so, whatever follows. -/
theorem undisturbed_of_alone {before : List Action}
    (hlast : (after site before).controller.nextRun = run + 1) (halone : Alone (after site before) run)
    (rest : List Action) : Undisturbed site before rest run := by
  have howns : ∀ rest, Owns (after site (before ++ rest)) run ((after site before).run rest).2 := by
    intro rest
    induction rest using List.reverseRecOn with
    | nil =>
      rw [List.append_nil]
      exact (consistent_after site before).owns_of_alone hlast halone
    | append_singleton rest b ih =>
      rw [← List.append_assoc, after_concat, run_append, run_singleton, ← after_append]
      exact ih.step (consistent_after site _) b
  induction rest using List.reverseRecOn with
  | nil =>
    refine ⟨fun other snapshot h => ?_, fun other collection h => ?_⟩
    · cases mem_of_mem_upToReveal h
    · cases h
  | append_singleton rest b ih =>
    have hevents : ((after site before).run (rest ++ [b])).2 =
        ((after site before).run rest).2 ++ ((after site (before ++ rest)).step b).2 := by
      rw [run_append, run_singleton, ← after_append]
    refine ⟨fun other snapshot h => ?_, fun other collection h => ?_⟩
    · rw [hevents] at h
      rw [← List.append_assoc]
      rcases mem_upToReveal_append h with h | ⟨hnone, h⟩
      · obtain ⟨heq, hown⟩ := ih.updates other snapshot h
        exact ⟨heq, hown.concat b⟩
      · have heq := (howns rest).update_eq hnone h
        rw [heq] at h
        exact ⟨heq, (ownOutput_of_mem h).concat b⟩
    · rw [hevents, List.mem_append] at h
      rcases h with h | h
      · exact ih.diagnostics other collection h
      · exact (howns rest).le_of_apply h

/-! ### Others on the display -/

/-- What a task delivers when it reads comes first, and at the end of the output the diagnostics are
applied. -/
theorem read_events {task : TaskId} {other : RunId} {process : ProcessId} {reader : Output.Reader}
    {p : Process} (ht : s.tasks[task]? = some (.reading other process reader))
    (hget : s.processes[process]? = some p) (now : Moment) :
    (∃ more, (s.step (.read task now)).2 =
      (feedChunks now p.arrived reader).2.1.map (Event.update other) ++ more) ∧
    ((feedChunks now p.arrived reader).2.2 = none → p.writable = false →
      ∃ collection, .apply other collection ∈ (s.step (.read task now)).2) := by
  rcases hfeed : feedChunks now p.arrived reader with ⟨reader', delivered, failure⟩
  cases failure with
  | some cause =>
    rw [step_read_of_failure ht hget hfeed]
    exact ⟨⟨_, rfl⟩, fun h => by cases h⟩
  | none =>
    cases hwritable : p.writable with
    | true =>
      rw [step_read_of_open ht hget hfeed hwritable]
      exact ⟨⟨[], (List.append_nil _).symm⟩, fun _ h => by cases h⟩
    | false =>
      rw [step_read_of_ended ht hget hfeed hwritable]
      refine ⟨⟨_, List.append_assoc _ _ _⟩, fun _ _ => ?_⟩
      exact ⟨(reader'.finish now).1.diagnostics, List.mem_append_right _ List.mem_cons_self⟩

/-- A run that is undisturbed whatever follows is alone on the display. -/
theorem alone_of_undisturbed {before : List Action}
    (hlast : (after site before).controller.nextRun = run + 1)
    (h : ∀ rest, Undisturbed site before rest run) : Alone (after site before) run := by
  intro task other process reader chunks ht hc hne now
  obtain ⟨p, hget, rfl⟩ : ∃ p, (after site before).processes[process]? = some p ∧
      p.arrived = chunks := by
    rw [arrivals, List.getElem?_map] at hc
    exact Option.map_eq_some_iff.mp hc
  have hlt : other < run := by
    have hle := (consistent_after site before).run_lt (role_of_task ht) rfl
    rw [hlast] at hle
    exact Nat.lt_of_le_of_ne (Nat.le_of_lt_succ hle) hne
  constructor
  · -- a snapshot that has arrived is displayed by the next read
    cases hdelivered : (feedChunks now p.arrived reader).2.1 with
    | nil => rfl
    | cons snapshot others =>
      obtain ⟨more, hevents⟩ := (read_events ht hget now).1
      refine absurd ((h [.read task now]).updates other snapshot ?_).1 hne
      rw [run_singleton, hevents, hdelivered]
      simp [upToReveal, Event.isRevealEmpty]
  · -- output that can be read to its end is applied by a read after the end
    intro hnone
    have hclosed : ((after site before).step (.endOutput process)).1.processes[process]? =
        some { p with writable := false } := by
      simp [step, hget]
    have hreading : ((after site before).step (.endOutput process)).1.tasks[task]? =
        some (.reading other process reader) := ht
    obtain ⟨collection, hmem⟩ := (read_events hreading hclosed now).2 hnone rfl
    have hle := (h [.endOutput process, .read task now]).diagnostics other collection
      (List.mem_append_right _ (List.mem_append_left _ hmem))
    exact Nat.not_lt_of_le hle hlt

/-! ### One check after another -/

/-- A check, up to the process of its run. -/
def firstCheck : List Action :=
  [.openDocument ⟨"/specs/Queue.tla"⟩, .request .check, .begin 0]

/-- The first process exits before its output has been read, and a check of another file follows,
up to the process of its run. -/
def secondCheck : List Action :=
  firstCheck ++ [.spawned 0 (.process (some 4242) .kill), .exit 0 (.exited 0), .observeExit 0,
    .openDocument ⟨"/specs/Other.tla"⟩, .request .check, .begin 1]

/-- A message of the checker, as bytes. -/
def startingMessage : Text.Bytes :=
  "@!@!@STARTMSG 2185:0 @!@!@\nStarting...\n@!@!@ENDMSG 2185 @!@!@\n".toUTF8.toList

/-- The output of the first process is read after that. -/
def lateOutput : List Action :=
  [.write 0 (.bytes startingMessage), .read 0 ⟨0, 0, 0⟩, .endOutput 0, .read 0 ⟨0, 0, 0⟩]

/-- Once the display has been opened for a run, the run is undisturbed whatever follows exactly if
no other run is being read, except to a failure that waits for its reader. -/
theorem undisturbed_iff_alone {before : List Action}
    (h : .revealEmpty run ∈ ((after site before).step a).2) :
    (∀ rest, Undisturbed site (before ++ [a]) rest run) ↔ Alone (after site (before ++ [a])) run := by
  have hlast : (after site (before ++ [a])).controller.nextRun = run + 1 := by
    rw [after_concat]
    exact (consistent_after site before).nextRun_of_reveal h
  exact ⟨alone_of_undisturbed hlast, undisturbed_of_alone hlast⟩

/-- The first run is alone on the display, and so undisturbed. -/
theorem firstCheck_undisturbed :
    .revealEmpty 0 ∈
        ((after workSite firstCheck).step (.spawned 0 (.process (some 4242) .kill))).2 ∧
      ∀ rest, Undisturbed workSite (firstCheck ++ [.spawned 0 (.process (some 4242) .kill)])
        rest 0 := by
  refine ⟨by decide, (undisturbed_iff_alone (by decide)).mpr ?_⟩
  intro task other process reader chunks ht hc hne
  have htasks : (after workSite (firstCheck ++ [.spawned 0 (.process (some 4242) .kill)])).tasks =
      [.reading 0 0 (workSite.reader ⟨"/specs/Queue.tla"⟩)] := by rfl
  rw [htasks, List.getElem?_singleton] at ht
  split at ht <;> cases ht
  exact absurd rfl hne

/-- The second run is disturbed by the first, on the display and in the diagnostics. -/
theorem lateOutput_disturbs :
    .revealEmpty 1 ∈
        ((after workSite secondCheck).step (.spawned 1 (.process (some 4242) .kill))).2 ∧
      ((after workSite (secondCheck ++ [.spawned 1 (.process (some 4242) .kill)])).run
          lateOutput).2 =
        [.update 0 ⟨.starting, none, ⟨"/specs/Queue.tla"⟩, some (.observed ⟨0, 0, 0⟩), none, none,
            [], [], [], [], []⟩,
          .apply 0 ⟨[(⟨"/specs/Queue.tla"⟩, [])]⟩] ∧
      ¬ Undisturbed workSite (secondCheck ++ [.spawned 1 (.process (some 4242) .kill)])
        lateOutput 1 := by
  have hevents : ((after workSite (secondCheck ++
      [.spawned 1 (.process (some 4242) .kill)])).run lateOutput).2 =
        [.update 0 ⟨.starting, none, ⟨"/specs/Queue.tla"⟩, some (.observed ⟨0, 0, 0⟩), none, none,
            [], [], [], [], []⟩,
          .apply 0 ⟨[(⟨"/specs/Queue.tla"⟩, [])]⟩] := by decide +kernel
  refine ⟨by decide, hevents, fun h => ?_⟩
  have hle := h.diagnostics 0 ⟨[(⟨"/specs/Queue.tla"⟩, [])]⟩ (by rw [hevents]; simp)
  exact absurd hle (by decide)

end System

end ModelCheck
