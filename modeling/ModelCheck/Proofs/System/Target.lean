import ModelCheck.Proofs.Launcher.File
import ModelCheck.Proofs.Output.Errors
import ModelCheck.Proofs.Output.Arrival
import ModelCheck.Proofs.System.Pipeline

/-!
# The document that is checked

A check is admitted only for a document whose extension says that it is in TLA+. Such a path has a file
name, however it is spelled, so the launcher is pointed at the document itself, and the diagnostics of the
run list it.
-/

namespace ModelCheck

/-- A document in TLA+ has a file name. -/
theorem Document.exists_fileName?_of_isTla {path : Path} (h : (Document.ofPath path).isTla = true) :
    ∃ name, path.fileName? = some name := by
  cases hextension : path.extension? with
  | none => simp [isTla, ofPath, hextension] at h
  | some extension => exact Path.exists_fileName?_of_extension? hextension

/-- A path is taken relative to the working directory by joining it to the directory. -/
theorem Controller.absolutePath_eq_join (directory path : Path) :
    absolutePath (some directory) path = directory.join path := by
  unfold absolutePath Path.join
  split <;> rfl

namespace Output

/-- The diagnostics of a run list its file, whatever the output was. -/
theorem file_mem_keys (file : Path) (limit : Nat) (zone : Zone) (inputs : List Input) :
    file ∈ Collection.keys ((start file limit zone).after inputs).diagnostics.files := by
  have hfile : ((start file limit zone).after inputs).snapshot.modelFile = file :=
    (grows_after inputs (start file limit zone)).modelFile
  rw [diagnostics, diagnosticsOf_eq, hfile]
  exact Collection.mem_keys_addAll_of_mem _ (Collection.ordered_forFile file) List.mem_cons_self

end Output

namespace System

variable {site : Site} {directory : Path} {s : System} {actions : List Action} {task : TaskId}
  {run : RunId} {file : Path}

/-! ### The document that is active -/

/-- A check that fails leaves the documents as they are. -/
theorem failCheck_editor (task : TaskId) (run : RunId) (e : CheckError) (s : System) :
    (s.failCheck task run e).1.editor = s.editor := by
  rw [failCheck_eq]
  cases (s.controller.fail run).2.2 <;> rfl

/-- A stop leaves the documents as they are. -/
theorem stop_editor (s : System) : s.stop.1.editor = s.editor := by
  rw [stop_eq]
  cases s.controller.slot.bind (·.process) <;> rfl

/-- Only opening and closing a document changes the editor. -/
theorem Transition.editor {a : Action} {s' : System} {events : List Event}
    (htransition : Transition s a s' events) :
    (∃ path, a = .openDocument path ∧ s'.editor = s.editor.open path) ∨
      s'.editor = s.editor.close ∨ s'.editor = s.editor := by
  cases htransition with
  | opened path => exact .inl ⟨path, rfl, rfl⟩
  | closed => exact .inr (.inl rfl)
  | stopped => exact .inr (.inr (stop_editor s))
  | taskStopped ht => exact .inr (.inr (stop_editor s))
  | attached ht pid termination => exact .inr (.inr (by rw [attach_eq]; rfl))
  | spawnFailed ht cause => exact .inr (.inr (failCheck_editor ..))
  | readFailed ht hp hfeed => exact .inr (.inr (failCheck_editor ..))
  | applyFailed ht cause => exact .inr (.inr (failCheck_editor ..))
  | _ => exact .inr (.inr rfl)

/-- The active document has been opened, and is in the language of its extension. -/
theorem opened_of_active {document : Document}
    (h : (after site actions).editor.active = some document) :
    .openDocument document.path ∈ actions ∧ document = .ofPath document.path := by
  induction actions using List.reverseRecOn with
  | nil => cases h
  | append_singleton actions a ih =>
    rw [after_concat] at h
    rcases (transition_step (after site actions) a).editor with ⟨path, rfl, heditor⟩ | heditor | heditor
    · rw [heditor] at h
      obtain rfl := Option.some.inj h
      exact ⟨by simp [Document.ofPath], rfl⟩
    · rw [heditor] at h
      cases h
    · rw [heditor] at h
      obtain ⟨hopened, hdocument⟩ := ih h
      exact ⟨List.mem_append_left _ hopened, hdocument⟩

/-- A run is on what the active document is from the working directory. -/
theorem Admits.exists_document (hdirectory : site.workingDirectory = some directory)
    {before : List Action} (h : (after site before).Admits task run file) :
    ∃ path, (after site before).editor.active = some (.ofPath path) ∧ .openDocument path ∈ before ∧
      (Document.ofPath path).isTla = true ∧ file = directory.join path := by
  obtain ⟨document, hactive, htla, hpath⟩ := h.document
  obtain ⟨hopened, hdocument⟩ := opened_of_active hactive
  rw [hdirectory, Controller.absolutePath_eq_join] at hpath
  rw [hdocument] at hactive htla
  exact ⟨document.path, hactive, hopened, htla, hpath.symm⟩

/-! ### The diagnostics of a run -/

/-- Output that is read to its end gives diagnostics that list the file. -/
theorem file_mem_keys_of_parse {last : Moment} {output : List (Moment × Output.Chunk)}
    {read : Output} {delivered : List Snapshot}
    (h : parse last output (site.reader file) = (.ok read, delivered)) :
    file ∈ Collection.keys read.diagnostics.files := by
  obtain ⟨pieces, rfl⟩ := Output.exists_pieces_of_ok (congrArg Prod.fst h)
  obtain ⟨inputs, hinputs⟩ :=
    Output.exists_inputs_parse file Output.defaultTailLimit site.zone pieces last
  have hread : (Output.start file Output.defaultTailLimit site.zone).after inputs = read := by
    have hboth := hinputs.symm.trans h
    exact Except.ok.inj (congrArg Prod.fst hboth)
  rw [← hread]
  exact Output.file_mem_keys file Output.defaultTailLimit site.zone inputs

/-- The diagnostics that a run hands on list its file. -/
theorem Admitted.file_mem_keys {diagnostics : Collection} (h : Admitted site actions task run file)
    (hmem : .apply run diagnostics ∈ history site actions) :
    file ∈ Collection.keys diagnostics.files := by
  have hevents : pipelineOf run (history site actions) = pipeline site actions task :=
    Admitted.pipelineOf_history (by rwa [List.append_nil] : Admitted site (actions ++ []) task run file)
  have happly : .apply run diagnostics ∈ pipeline site actions task := by
    rw [← hevents]
    exact List.mem_filter.mpr ⟨hmem, by simp [Event.pipelineRun?]⟩
  obtain ⟨stage, -, hcourse⟩ := h.course
  obtain ⟨last, output, read, delivered, -, hparse, rfl, -⟩ := (hcourse.whole_of_mem happly).trace
  exact file_mem_keys_of_parse hparse

/-! ### The contract -/

/-- Whatever file a launcher is given in a history, some check was admitted for it while a document was
active that had been opened. The file is that document from the working directory, and it is absolute. The
launched tool is told its name only, and finds it under that name in the folder in which it runs. If the
run hands diagnostics on, they list the same path. -/
theorem launched_on_document (hdirectory : site.workingDirectory = some directory)
    (habsolute : directory.isAbsolute = true) {tool : String} {arguments : List String}
    (h : .spawn run tool file arguments ∈ history site actions) (l : Launcher) :
    ∃ before task rest path, actions = before ++ .begin task :: rest ∧
      (after site before).Admits task run file ∧
      (after site before).editor.active = some (.ofPath path) ∧ .openDocument path ∈ before ∧
      l.PointsAt tool arguments file (directory.join path) ∧
      ∀ diagnostics, .apply run diagnostics ∈ history site actions →
        directory.join path ∈ Collection.keys diagnostics.files := by
  have hadmission : (run, file) ∈ admissions (history site actions) :=
    List.mem_filterMap.mpr ⟨_, h, rfl⟩
  obtain ⟨task, hadmitted⟩ := exists_admitted hadmission
  have hlists : ∀ diagnostics, .apply run diagnostics ∈ history site actions →
      file ∈ Collection.keys diagnostics.files := fun _ => hadmitted.file_mem_keys
  obtain ⟨before, rest, hsplit, hadmits⟩ := hadmitted
  obtain ⟨path, hactive, hopened, htla, rfl⟩ := hadmits.exists_document hdirectory
  obtain ⟨name, hname⟩ := Document.exists_fileName?_of_isTla htla
  have hpoints : l.PointsAt tool arguments (directory.join path) (directory.join path) :=
    l.pointsAt_of_fileName? tool arguments (Path.isAbsolute_join habsolute path)
      (Path.fileName?_join habsolute hname)
  exact ⟨before, task, rest, path, hsplit, hadmits, hactive, hopened, hpoints, hlists⟩

/-- A relative document with idle pieces and a dot in its folder, whose output ends at once. -/
def relativeDocument : List Action :=
  [.openDocument ⟨"specs.d//./Queue.tla/."⟩, .request .check, .begin 0, .closeDocument,
    .spawned 0 (.process none .kill), .endOutput 0, .read 0 ⟨0, 0, 0⟩]

/-- The tool is pointed at the document from the working directory, and that path is listed. -/
theorem relativeDocument_launched :
    let target : Path := ⟨"/work/specs.d//./Queue.tla/."⟩
    let l : Launcher := ⟨⟨"java"⟩, ["-Xmx4g"], ⟨"/opt/tla2tools.jar"⟩⟩
    workSite.workingDirectory = some ⟨"/work"⟩ ∧ Path.isAbsolute ⟨"/work"⟩ = true ∧
      .spawn 0 checkerTool target checkerArguments ∈ history workSite relativeDocument ∧
      .apply 0 (.forFile target) ∈ history workSite relativeDocument ∧
      l.PointsAt checkerTool checkerArguments target target ∧
      target ∈ Collection.keys (Collection.forFile target).files := by
  intro target l
  have habsolute : Path.isAbsolute ⟨"/work"⟩ = true := by decide
  have hspawn : .spawn 0 checkerTool target checkerArguments ∈
      history workSite relativeDocument := by decide +kernel
  have happly : .apply 0 (.forFile target) ∈ history workSite relativeDocument := by
    decide +kernel
  obtain ⟨before, task, rest, path, hsplit, -, -, hopened, hpoints, hlists⟩ :=
    launched_on_document rfl habsolute hspawn l
  have hpath : path = ⟨"specs.d//./Queue.tla/."⟩ := by
    have hmem : .openDocument path ∈ relativeDocument := by
      rw [hsplit]
      exact List.mem_append_left _ hopened
    simpa [relativeDocument] using hmem
  have htarget : Path.join ⟨"/work"⟩ path = target := by
    rw [hpath]
    decide +kernel
  have hlisted := hlists _ happly
  rw [htarget] at hpoints hlisted
  exact ⟨rfl, habsolute, hspawn, happly, hpoints, hlisted⟩

end System

end ModelCheck
