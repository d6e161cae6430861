import ModelCheck.Proofs.System.Reading
import ModelCheck.Proofs.System.Trace

/-!
# The output of a run

What is written to the process of a run before the end of its output is the output of the run. The
task that reads it finds all of it, in order: no step of others takes anything from what has arrived
and not been read. The parser takes chunks of output, each at the moment at which it is read, until
they end or fail; reading them in batches comes to the same.
-/

namespace ModelCheck

/-- What every step leaves of a process: its run, and the end of its output. -/
structure Process.Kept (p q : Process) : Prop where
  run : q.run = p.run
  closed : p.writable = false → q.writable = false

/-- What a step that is not its reader's leaves of a process: what has arrived stays, and chunks
arrive behind it if anybody reads. -/
structure Process.Fed (p q : Process) (chunks : List Output.Chunk) : Prop extends
    Process.Kept p q where
  readable : q.readable = p.readable
  arrived : p.readable = true → q.arrived = p.arrived ++ chunks

namespace Process

/-- What two steps leave of a process one after the other, both of them leave. -/
theorem Kept.trans {p q r : Process} (h₁ : p.Kept q) (h₂ : q.Kept r) : p.Kept r :=
  ⟨h₂.run.trans h₁.run, fun h => h₂.closed (h₁.closed h)⟩

/-- A process that nothing is done to gets nothing. -/
theorem Fed.refl (p : Process) : p.Fed p [] := ⟨⟨rfl, id⟩, rfl, fun _ => (List.append_nil _).symm⟩

/-- Reporting an exit adds nothing to what has arrived. -/
theorem fed_report (exit : ProcessExit) (p : Process) : p.Fed (p.report exit) [] := by
  unfold report
  split
  · exact ⟨⟨rfl, id⟩, rfl, fun _ => (List.append_nil _).symm⟩
  · exact .refl p

/-- Terminating a process adds nothing to what has arrived, though it may end the output. -/
theorem fed_terminate (p : Process) : p.Fed p.terminate [] := by
  unfold terminate
  split
  · have h := fed_report (.killed (some killedCode)) { p with writable := false }
    exact ⟨⟨h.run, fun _ => h.closed rfl⟩, h.readable, h.arrived⟩
  · exact .refl p
  · exact .refl p

/-- A chunk arrives while the output is open. -/
theorem fed_write (chunk : Output.Chunk) (p : Process) :
    p.Fed (p.write chunk) (if p.writable = true then [chunk] else []) := by
  unfold write
  cases hw : p.writable <;> cases hr : p.readable <;>
    exact ⟨⟨rfl, by simp [hw]⟩, by simp [hr], by simp [hr]⟩

end Process

namespace System

variable {site : Site} {s s' : System} {a : Action} {events : List Event} {run : RunId}

/-! ### What is written -/

/-- What an action adds to the output of a run: a chunk that is written to its process before the
end of the output. -/
def emits (run : RunId) (s : System) : Action → List Output.Chunk
  | .write process chunk => s.processes[process]?.elim [] fun p =>
    if p.run = run ∧ p.writable = true then [chunk] else []
  | _ => []

/-- The output of a run in a history. -/
def emitted (site : Site) (actions : List Action) (run : RunId) : List Output.Chunk :=
  (start site).collect (emits run) actions

/-- The output of a run grows by what each action adds to it. -/
theorem emitted_concat (actions : List Action) (a : Action) (run : RunId) :
    emitted site (actions ++ [a]) run = emitted site actions run ++ emits run (after site actions) a :=
  collect_concat ..

/-- Tasks write nothing. -/
theorem emits_of_task {task : TaskId} (ha : a.task? = some task) : emits run s a = [] := by
  cases a <;> first | rfl | cases ha

/-- A chunk goes to the output of the run that the process has, while that is open. -/
theorem emits_write {process : ProcessId} {p : Process} (hget : s.processes[process]? = some p)
    (chunk : Output.Chunk) : emits run s (.write process chunk) =
      if p.run = run ∧ p.writable = true then [chunk] else [] := by
  rw [emits, hget, Option.elim_some]

/-- To the output of a run without an open process nothing is added. -/
theorem emits_of_closed (h : ∀ (process : ProcessId) (p : Process),
    s.processes[process]? = some p → p.run = run → p.writable = false) :
    emits run s a = [] := by
  cases a with
  | write process chunk =>
    cases hget : s.processes[process]? with
    | none => rw [emits, hget, Option.elim_none]
    | some p =>
      rw [emits_write hget]
      refine if_neg fun ⟨hrun, hopen⟩ => ?_
      rw [h process p hget hrun] at hopen
      cases hopen
  | _ => rfl

/-! ### What arrives -/

/-- Changing one process feeds no process, if it does not feed the one that it changes. -/
theorem fed_modify {processes : List Process} {i target : ProcessId} {p : Process}
    {f : Process → Process} (hget : processes[i]? = some p) (hf : p.Fed (f p) []) :
    ∃ q, (processes.modify target f)[i]? = some q ∧ p.Fed q [] := by
  rw [List.getElem?_modify, hget]
  by_cases heq : target = i
  · exact ⟨f p, by simp [heq], hf⟩
  · exact ⟨p, by simp [heq], .refl p⟩

/-- Terminations feed no process. -/
theorem fed_terminateAll {i : ProcessId} {p : Process} (process : Option ProcessId)
    (hget : s.processes[i]? = some p) :
    ∃ q, (s.terminateAll process).processes[i]? = some q ∧ p.Fed q [] := by
  cases process with
  | none => exact ⟨p, hget, .refl p⟩
  | some target => exact fed_modify hget p.fed_terminate

/-- A check that fails feeds no process. -/
theorem fed_failCheck {i : ProcessId} {p : Process} (task : TaskId) (run : RunId) (e : CheckError)
    (hget : s.processes[i]? = some p) :
    ∃ q, (s.failCheck task run e).1.processes[i]? = some q ∧ p.Fed q [] := by
  rw [failCheck_eq]
  exact fed_terminateAll _ hget

/-- A step that takes what has arrived for a process leaves any other process. -/
theorem get_modify_of_ne {processes : List Process} {i target : ProcessId} {p : Process}
    (f : Process → Process) (hget : processes[i]? = some p) (hne : target ≠ i) :
    (processes.modify target f)[i]? = some p := by
  rw [List.getElem?_modify_ne _ _ hne, hget]

/-- What a step does to a process: it feeds it, or it is a step of the task that is attached to
it. -/
inductive Touches (s : System) (a : Action) (i : ProcessId) (p q : Process) : Prop
  | fed (h : p.Fed q (emits p.run s a))
  | own (h : p.Kept q) {task : TaskId} {run : RunId} (ha : a.task? = some task)
      (ht : s.role task = .attached run i)

/-- Whatever a step does to a process leaves it its run, and an end of its output. -/
theorem Touches.kept {i : ProcessId} {p q : Process} (h : Touches s a i p q) : p.Kept q := by
  cases h with
  | fed h => exact h.toKept
  | own h ha ht => exact h

/-- A step in which a task takes what has arrived for its process, and may be terminated after. -/
theorem touches_of_taken {task : TaskId} {run : RunId} {i target : ProcessId} {p : Process}
    {f : Process → Process} (hget : s.processes[i]? = some p) (ha : a.task? = some task)
    (ht : s.role task = .attached run target) (hf : p.Kept (f p))
    (hafter : ∀ {q : Process}, (s.processes.modify target f)[i]? = some q →
      ∃ r, s'.processes[i]? = some r ∧ q.Fed r []) :
    ∃ q, s'.processes[i]? = some q ∧ Touches s a i p q := by
  by_cases heq : target = i
  · subst heq
    have htaken : (s.processes.modify target f)[target]? = some (f p) := by
      rw [List.getElem?_modify_eq, hget]
      rfl
    obtain ⟨q, hq, hfed⟩ := hafter htaken
    exact ⟨q, hq, .own (hf.trans hfed.toKept) ha ht⟩
  · obtain ⟨q, hq, hfed⟩ := hafter (get_modify_of_ne f hget heq)
    exact ⟨q, hq, .fed (emits_of_task ha ▸ hfed)⟩

/-- The process that a step attaches comes behind the others. -/
theorem get_attach {i : ProcessId} {p : Process} (task : TaskId) (run : RunId) (file : Path)
    (pid : Option Nat) (termination : Termination) (hget : s.processes[i]? = some p) :
    (s.attach task run file pid termination).1.processes[i]? = some p := by
  rw [attach_eq, setTask_processes,
    List.getElem?_append_left (List.getElem?_eq_some_iff.mp hget).1, hget]

/-- A stop feeds no process. -/
theorem fed_stop {i : ProcessId} {p : Process} (hget : s.processes[i]? = some p) :
    ∃ q, s.stop.1.processes[i]? = some q ∧ p.Fed q [] := by
  rw [stop_eq]
  exact fed_terminateAll _ hget

/-- A transition in which nothing is written feeds no process, and takes what has arrived only in a step
of the task that reads it. -/
theorem Transition.process (htransition : Transition s a s' events)
    (hnone : ∀ run, emits run s a = []) (hwrite : ∀ target chunk, a ≠ .write target chunk)
    {i : ProcessId} {p : Process} (hget : s.processes[i]? = some p) :
    ∃ q, s'.processes[i]? = some q ∧ Touches s a i p q := by
  have hfed : (∃ q, s'.processes[i]? = some q ∧ p.Fed q []) →
      ∃ q, s'.processes[i]? = some q ∧ Touches s a i p q := by
    rintro ⟨q, hq, hpq⟩
    exact ⟨q, hq, .fed (hnone p.run ▸ hpq)⟩
  have hsame : s'.processes[i]? = some p → ∃ q, s'.processes[i]? = some q ∧ Touches s a i p q :=
    fun hkept => hfed ⟨p, hkept, .refl p⟩
  have hread : ∀ readable : Bool, p.Kept { p with arrived := [], readable := readable } :=
    fun _ => ⟨rfl, id⟩
  cases htransition with
  | refused => exact hsame hget
  | opened path => exact hsame hget
  | closed => exact hsame hget
  | requested r => exact hsame hget
  | displayed => exact hsame hget
  | stopped => exact hfed (fed_stop hget)
  | taskDisplayed h => exact hsame hget
  | taskStopped h => exact hfed (fed_stop hget)
  | waited h => exact hsame hget
  | woke h hidle => exact hsame hget
  | offered h hr hm => exact hsame hget
  | answered h accepted => exact hsame hget
  | rejected h hr hm hreason => exact hsame hget
  | reserved h hr hm => exact hsame hget
  | attached h pid termination => exact hsame (get_attach _ _ _ _ _ hget)
  | spawnFailed h cause => exact hfed (fed_failCheck _ _ _ hget)
  | readOn h hp hfeed hopen =>
    exact touches_of_taken hget rfl (role_of_task h) (hread p.readable)
      (fun hq => ⟨_, hq, .refl _⟩)
  | readEnd h hp hfeed hended =>
    exact touches_of_taken hget rfl (role_of_task h) (hread false) (fun hq => ⟨_, hq, .refl _⟩)
  | readFailed h hp hfeed =>
    exact touches_of_taken hget rfl (role_of_task h) (hread false)
      (fun hq => fed_failCheck (s := s.modifyProcess _ _) _ _ _ hq)
  | applied h => exact hsame hget
  | applyFailed h cause => exact hfed (fed_failCheck _ _ _ hget)
  | dropped h hstage => exact hsame hget
  | abandoned h => exact hsame hget
  | readingDropped h =>
    exact touches_of_taken hget rfl (role_of_task h) (hread false)
      (fun hq => fed_modify hq (Process.fed_terminate _))
  | applyingDropped h => exact hfed (fed_modify hget p.fed_terminate)
  | wrote target chunk => exact absurd rfl (hwrite target chunk)
  | outputEnded target =>
    exact hfed (fed_modify hget ⟨⟨rfl, fun _ => rfl⟩, rfl, fun _ => (List.append_nil _).symm⟩)
  | exited target exit => exact hfed (fed_modify hget (p.fed_report exit))
  | observed h hhooked hexit =>
    exact hfed (fed_modify hget ⟨⟨rfl, id⟩, rfl, fun _ => (List.append_nil _).symm⟩)

/-- What is written to another process is not output of this one's run. -/
theorem Owned.emits_write_of_ne (h : Owned s) {i target : ProcessId} {p : Process}
    (hget : s.processes[i]? = some p) (hne : target ≠ i) (chunk : Output.Chunk) :
    emits p.run s (.write target chunk) = [] := by
  cases hq : s.processes[target]? with
  | none => rw [emits, hq, Option.elim_none]
  | some q =>
    rw [emits_write hq]
    exact if_neg fun hopen => hne (h.process_unique hq hget hopen.1)

/-- Every step feeds a process, or is one of the task that is attached to it. -/
theorem Owned.process_step (h : Owned s) (a : Action) {i : ProcessId} {p : Process}
    (hget : s.processes[i]? = some p) :
    ∃ q, (s.step a).1.processes[i]? = some q ∧ Touches s a i p q := by
  have hother : (∀ run, emits run s a = []) → (∀ target chunk, a ≠ .write target chunk) →
      ∃ q, (s.step a).1.processes[i]? = some q ∧ Touches s a i p q :=
    fun hnone hwrite => (transition_step s a).process hnone hwrite hget
  cases a with
  | write target chunk =>
    by_cases heq : target = i
    · subst heq
      refine ⟨p.write chunk, ?_, .fed ?_⟩
      · rw [step, modifyProcess_processes, List.getElem?_modify_eq, hget]
        rfl
      · simpa [emits_write hget] using p.fed_write chunk
    · refine ⟨p, get_modify_of_ne _ hget heq, .fed ?_⟩
      rw [h.emits_write_of_ne hget heq]
      exact .refl p
  | _ => exact hother (fun _ => rfl) (fun _ _ => by simp)

/-- With a step of another task a process is fed that a task is attached to. -/
theorem Consistent.fed_of_ne (h : Consistent s) {task : TaskId} {i : ProcessId} {p : Process}
    (ht : s.role task = .attached run i) (ha : a.task? ≠ some task)
    (hget : s.processes[i]? = some p) :
    ∃ q, (s.step a).1.processes[i]? = some q ∧ p.Fed q (emits p.run s a) := by
  obtain ⟨q, hq, htouches⟩ := h.process_step a hget
  cases htouches with
  | fed hfed => exact ⟨q, hq, hfed⟩
  | @own hkept t other hother hrole =>
    have hne : t ≠ task := by
      rintro rfl
      exact ha hother
    exact absurd rfl (h.process_ne hrole ht hne)

/-- While a run has no process it has no output. -/
theorem emitted_of_no_process (actions : List Action)
    (h : ∀ (process : ProcessId) (p : Process), (after site actions).processes[process]? = some p →
      p.run ≠ run) : emitted site actions run = [] := by
  induction actions using List.reverseRecOn with
  | nil => rfl
  | append_singleton actions a ih =>
    have hbefore : ∀ (process : ProcessId) (p : Process),
        (after site actions).processes[process]? = some p → p.run ≠ run := by
      intro process p hget
      obtain ⟨q, hq, hrun⟩ := (change_after site actions a).process hget
      rw [← hrun]
      exact h process q hq
    rw [emitted_concat, ih hbefore, emits_of_closed]
    · rfl
    · intro process p hget hrun
      exact absurd hrun (hbefore process p hget)

/-! ### The parser -/

/-- What the parser makes of output: it takes chunks, each at the moment at which it is read, until
the output ends, at the last moment, or fails. -/
def parse (last : Moment) : List (Moment × Output.Chunk) → Output.Reader →
    Except String Output × List Snapshot
  | [], r =>
    let (output, delivered) := r.finish last
    (.ok output, delivered)
  | (_, .failure cause) :: _, _ => (.error cause, [])
  | (now, .bytes content) :: rest, r =>
    let (r, first) := r.feed now content
    let (result, others) := parse last rest r
    (result, first ++ others)

/-- Bytes are read first, and then the chunks behind them. -/
theorem parse_bytes (last now : Moment) (content : Text.Bytes)
    (rest : List (Moment × Output.Chunk)) (r : Output.Reader) :
    parse last ((now, .bytes content) :: rest) r =
      ((parse last rest (r.feed now content).1).1,
        (r.feed now content).2 ++ (parse last rest (r.feed now content).1).2) := rfl

/-- At a single moment it is the reader that takes everything at once. -/
theorem parse_at (now : Moment) (chunks : List Output.Chunk) (r : Output.Reader) :
    parse now (chunks.map fun chunk => (now, chunk)) r = r.readAll now chunks := by
  induction chunks generalizing r with
  | nil => rfl
  | cons chunk rest ih =>
    cases chunk with
    | failure cause => rfl
    | bytes content => simp only [List.map_cons, parse, Output.Reader.readAll, ih]

/-- Output that is read in a batch is parsed up to there. -/
theorem parse_batch {now last : Moment} {chunks : List Output.Chunk} {r r' : Output.Reader}
    {delivered : List Snapshot} (h : feedChunks now chunks r = (r', delivered, none))
    (more : List (Moment × Output.Chunk)) :
    parse last (chunks.map (fun chunk => (now, chunk)) ++ more) r =
      ((parse last more r').1, delivered ++ (parse last more r').2) := by
  induction chunks generalizing r delivered with
  | nil => cases h; rfl
  | cons chunk rest ih =>
    cases chunk with
    | failure cause => cases h
    | bytes content =>
      rcases hrest : feedChunks now rest (r.feed now content).1 with ⟨r₁, others, failure⟩
      simp only [feedChunks, hrest, Prod.mk.injEq] at h
      obtain ⟨rfl, rfl, rfl⟩ := h
      rw [List.map_cons, List.cons_append, parse_bytes, ih hrest, List.append_assoc]

/-- Output that fails while it is read in a batch is parsed up to the failure. -/
theorem parse_failure {now last : Moment} {chunks : List Output.Chunk} {r r' : Output.Reader}
    {delivered : List Snapshot} {cause : String}
    (h : feedChunks now chunks r = (r', delivered, some cause))
    (more : List (Moment × Output.Chunk)) :
    parse last (chunks.map (fun chunk => (now, chunk)) ++ more) r = (.error cause, delivered) := by
  induction chunks generalizing r delivered with
  | nil => cases h
  | cons chunk rest ih =>
    cases chunk with
    | failure cause => cases h; rfl
    | bytes content =>
      rcases hrest : feedChunks now rest (r.feed now content).1 with ⟨r₁, others, failure⟩
      simp only [feedChunks, hrest, Prod.mk.injEq] at h
      obtain ⟨rfl, rfl, rfl⟩ := h
      rw [List.map_cons, List.cons_append, parse_bytes, ih hrest]

/-- The parser has come to a reader, having delivered snapshots: whatever comes behind the chunks it
has taken, it goes on from there. -/
def Reached (site : Site) (file : Path) (taken : List (Moment × Output.Chunk)) (reader : Output.Reader)
    (delivered : List Snapshot) : Prop :=
  ∀ last more, parse last (taken ++ more) (site.reader file) =
    ((parse last more reader).1, delivered ++ (parse last more reader).2)

/-- Before anything is taken the parser is at its start. -/
theorem reached_start (site : Site) (file : Path) : Reached site file [] (site.reader file) [] :=
  fun _ _ => rfl

namespace Reached

variable {site : Site} {file : Path} {taken : List (Moment × Output.Chunk)} {reader reader' : Output.Reader}
  {delivered others : List Snapshot} {now : Moment} {chunks : List Output.Chunk}

/-- It comes further by a batch. -/
theorem batch (h : Reached site file taken reader delivered)
    (hfeed : feedChunks now chunks reader = (reader', others, none)) :
    Reached site file (taken ++ chunks.map fun chunk => (now, chunk)) reader'
      (delivered ++ others) := by
  intro last more
  rw [List.append_assoc, h, parse_batch hfeed, List.append_assoc]

/-- It stops at a failure, whatever comes behind. -/
theorem failure (h : Reached site file taken reader delivered) {cause : String}
    (hfeed : feedChunks now chunks reader = (reader', others, some cause)) (last : Moment)
    (more : List (Moment × Output.Chunk)) :
    parse last (taken ++ chunks.map (fun chunk => (now, chunk)) ++ more) (site.reader file) =
      (.error cause, delivered ++ others) := by
  rw [List.append_assoc, h, parse_failure hfeed]

/-- It ends when the output does. -/
theorem finish (h : Reached site file taken reader delivered) (last : Moment) :
    parse last taken (site.reader file) =
      (.ok (reader.finish last).1, delivered ++ (reader.finish last).2) := by
  have hend := h last []
  rwa [List.append_nil] at hend

end Reached

end System

end ModelCheck
