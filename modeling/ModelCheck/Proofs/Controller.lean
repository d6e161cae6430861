import ModelCheck.Controller

/-!
# The operations of the controller

Each operation in each state of the slot that it tells apart, as one equation: the controller it
leaves, the events in it and what it returns.
-/

namespace ModelCheck.Controller

variable {c : Controller} {active : ActiveRun} {process : ProcessId} {run : RunId}

/-- A document is checked only while the slot is empty. -/
theorem slot_of_modelToCheck {directory : Option Path} {file : Path} {editor : Editor}
    (h : c.modelToCheck directory editor = .ok file) : c.slot = none := by
  unfold modelToCheck at h
  cases hslot : c.slot with
  | none => rfl
  | some active => simp [hslot] at h

/-! ### Deciding on a request -/

/-- With a run in the slot a request is turned down, whatever is open. -/
theorem modelToCheck_of_held (h : c.slot = some active) (directory : Option Path) (editor : Editor) :
    c.modelToCheck directory editor = .error .alreadyRunning := by
  simp [modelToCheck, h]

/-- With an empty slot a request needs an active document. -/
theorem modelToCheck_of_closed {editor : Editor} (h : c.slot = none) (directory : Option Path)
    (hactive : editor.active = none) : c.modelToCheck directory editor = .error .noActiveEditor := by
  simp [modelToCheck, h, hactive]

/-- The active document must be in TLA+; then its path is the one to check. -/
theorem modelToCheck_of_document {editor : Editor} {document : Document} (h : c.slot = none)
    (directory : Option Path) (hactive : editor.active = some document) :
    c.modelToCheck directory editor =
      if document.isTla then .ok (absolutePath directory document.path) else .error .notTlaFile := by
  simp [modelToCheck, h, hactive]

/-- A request is admitted just when the slot is empty and a document in TLA+ is active. -/
theorem modelToCheck_eq_ok_iff {directory : Option Path} {file : Path} {editor : Editor} :
    c.modelToCheck directory editor = .ok file ↔
      c.slot = none ∧ ∃ document, editor.active = some document ∧ document.isTla = true ∧
        absolutePath directory document.path = file := by
  cases hslot : c.slot with
  | some active => simp [modelToCheck_of_held hslot]
  | none =>
    cases hactive : editor.active with
    | none => simp [modelToCheck_of_closed hslot directory hactive]
    | some document =>
      rw [modelToCheck_of_document hslot directory hactive]
      cases htla : document.isTla <;> simp [htla]

/-- A reservation takes the slot under the next number, asks for a process and shows that a run is
active. -/
theorem reserve_eq (file : Path) (c : Controller) :
    c.reserve file = (⟨some ⟨c.nextRun, file, none, false, false⟩, .starting c.nextRun file,
      .active, c.nextRun + 1⟩, [.showStatus (statusItem true)]) := rfl

/-- A run that holds the slot gets its process, and the process is terminated at once if a stop came
before it. -/
theorem attach_of_held (h : c.slot = some active) (file : Path) (process : ProcessId)
    (pid : Option Nat) :
    c.attach active.id file process pid =
      ({ c with
          slot := some { active with process := some process }
          state := .running active.id file pid }, active.stopRequested) := by
  simp [attach, h]

/-! ### Stopping -/

/-- With an empty slot a stop says so, and that is all. -/
theorem stop_of_empty (h : c.slot = none) :
    c.stop = (c, [.info nothingRunningMessage], .nothingRunning) := by
  rw [stop, h]

/-- A stop of a run that has a process terminates that process and leaves the controller alone. -/
theorem stop_of_process (h : c.slot = some active) (hprocess : active.process = some process) :
    c.stop = (c, [.terminate process], .terminationRequested) := by
  simp [stop, h, hprocess]

/-- A stop of a run that has no process is kept in the slot. -/
theorem stop_of_spawning (h : c.slot = some active) (hnone : active.process = none) :
    c.stop = ({ c with slot := some { active with stopRequested := true } }, [],
      .terminationRequested) := by
  simp [stop, h, hnone]

/-! ### Failing -/

/-- With an empty slot a failure hides the indicator. -/
theorem fail_of_empty (h : c.slot = none) (run : RunId) :
    c.fail run = ({ c with indicator := .hidden }, [.hideStatus], none) := by
  simp [fail, hide, h]

/-- A failure leaves a slot alone that holds another run. -/
theorem fail_of_ne (h : c.slot = some active) (hne : active.id ≠ run) :
    c.fail run = (c, [], none) := by
  simp [fail, h, hne]

/-- A failure without a process empties the slot. -/
theorem fail_of_spawning (h : c.slot = some active) (hnone : active.process = none) :
    c.fail active.id =
      ({ c with slot := none, state := .idle, indicator := .hidden }, [.hideStatus], none) := by
  simp [fail, hide, h, hnone]

/-- A failure with a process marks the run and returns the process. -/
theorem fail_of_process (h : c.slot = some active) (hprocess : active.process = some process) :
    c.fail active.id = ({ c with
      slot := some { active with failed := true }
      indicator := .hidden }, [.hideStatus], some process) := by
  simp [fail, hide, h, hprocess]

/-- A failure shows nothing but that the indicator is hidden. -/
theorem fail_events (c : Controller) (run : RunId) :
    (c.fail run).2.1 = [] ∨ (c.fail run).2.1 = [.hideStatus] := by
  cases hslot : c.slot with
  | none => exact .inr (by rw [fail_of_empty hslot])
  | some active =>
    by_cases hid : active.id = run
    · subst hid
      cases hprocess : active.process with
      | none => exact .inr (by rw [fail_of_spawning hslot hprocess])
      | some process => exact .inr (by rw [fail_of_process hslot hprocess])
    · exact .inl (by rw [fail_of_ne hslot hid])

/-- The process that a failure returns is that of the run in the slot. -/
theorem held_of_fail (h : (c.fail run).2.2 = some process) :
    ∃ active, c.slot = some active ∧ active.id = run ∧ active.process = some process := by
  cases hslot : c.slot with
  | none => rw [fail_of_empty hslot] at h; cases h
  | some active =>
    by_cases hid : active.id = run
    · subst hid
      cases hprocess : active.process with
      | none => rw [fail_of_spawning hslot hprocess] at h; cases h
      | some other =>
        rw [fail_of_process hslot hprocess] at h
        cases h
        exact ⟨active, rfl, rfl, hprocess⟩
    · rw [fail_of_ne hslot hid] at h
      cases h

/-- After a failure the run is not in the slot, or it is marked. -/
theorem failed_of_fail (h : (c.fail run).1.slot = some active) (hid : active.id = run) :
    active.failed = true := by
  cases hslot : c.slot with
  | none => rw [fail_of_empty hslot] at h; rw [hslot] at h; cases h
  | some other =>
    by_cases hother : other.id = run
    · subst hother
      cases hprocess : other.process with
      | none => rw [fail_of_spawning hslot hprocess] at h; cases h
      | some process => rw [fail_of_process hslot hprocess] at h; cases h; rfl
    · rw [fail_of_ne hslot hother, hslot] at h
      cases h
      exact absurd hid hother

/-- After a failure the indicator is hidden, unless another run is in the slot. -/
theorem indicator_of_fail
    (h : ∀ active, (c.fail run).1.slot = some active → active.id = run) :
    (c.fail run).1.indicator = .hidden := by
  cases hslot : c.slot with
  | none => rw [fail_of_empty hslot]
  | some active =>
    by_cases hid : active.id = run
    · subst hid
      cases hprocess : active.process with
      | none => rw [fail_of_spawning hslot hprocess]
      | some process => rw [fail_of_process hslot hprocess]
    · rw [fail_of_ne hslot hid] at h
      exact absurd (h active hslot) hid

/-! ### Letting go -/

/-- Dropping a request whose run has no process empties the slot. -/
theorem abandon_of_spawning (h : c.slot = some active) (hnone : active.process = none) :
    c.abandon active.id = ({ c with slot := none, state := .idle, indicator := .idle },
      [.showStatus (statusItem false)]) := by
  simp [abandon, setActive, h, hnone]

/-- Dropping a request leaves a slot alone that holds another run. -/
theorem abandon_of_ne (h : c.slot = some active) (hne : active.id ≠ run) :
    c.abandon run = (c, []) := by
  simp [abandon, h, hne]

/-- The end of the run in the slot empties it; the indicator becomes idle unless the run has
failed. -/
theorem complete_of_held (h : c.slot = some active) :
    c.complete active.id = ({ c with
        slot := none
        state := .idle
        indicator := if active.failed then c.indicator else .idle },
      if active.failed then [] else [.showStatus (statusItem false)]) := by
  cases hfailed : active.failed <;> simp [complete, release, setActive, h, hfailed]

/-- The end of a run leaves a slot alone that holds another. -/
theorem complete_of_ne (h : c.slot = some active) (hne : active.id ≠ run) :
    c.complete run = (c, []) := by
  simp [complete, release, h, hne]

/-- The end of a run leaves an empty slot alone. -/
theorem complete_of_empty (h : c.slot = none) (run : RunId) : c.complete run = (c, []) := by
  simp [complete, release, h]

/-- Dropping a request shows nothing but that the indicator is idle. -/
theorem abandon_events (c : Controller) (run : RunId) :
    (c.abandon run).2 = [] ∨ (c.abandon run).2 = [.showStatus (statusItem false)] := by
  unfold abandon
  cases c.slot with
  | none => exact .inl rfl
  | some active => dsimp only; split <;> simp [setActive]

/-- The end of a run shows nothing but that the indicator is idle. -/
theorem complete_events (c : Controller) (run : RunId) :
    (c.complete run).2 = [] ∨ (c.complete run).2 = [.showStatus (statusItem false)] := by
  cases hslot : c.slot with
  | none => exact .inl (by rw [complete_of_empty hslot])
  | some active =>
    by_cases hid : active.id = run
    · subst hid
      rw [complete_of_held hslot]
      cases active.failed <;> simp
    · exact .inl (by rw [complete_of_ne hslot hid])

end ModelCheck.Controller
