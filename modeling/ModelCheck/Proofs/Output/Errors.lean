import ModelCheck.Proofs.Diagnostic.Collection
import ModelCheck.Proofs.Output.Growth
import ModelCheck.Proofs.Report.Location

/-!
# Errors and their diagnostics

The errors of a run are its error messages in the order in which they were applied, each with the text
of the trace headers that came before the next one. They become the diagnostics of the run, each in the
file that it is in, and in no other.
-/

namespace ModelCheck

/-! ### Messages that are errors -/

namespace Message

/-- Whether a message is an error that stands for itself. -/
def IsEntry (m : Message) : Prop := m.IsError ∧ m.code ≠ 2121

/-- Whether a message is an error that only goes on with the one before it. -/
def IsHeader (m : Message) : Prop := m.IsError ∧ m.code = 2121

instance (m : Message) : Decidable m.IsEntry := inferInstanceAs (Decidable (_ ∧ _))

instance (m : Message) : Decidable m.IsHeader := inferInstanceAs (Decidable (_ ∧ _))

variable {m : Message}

/-- A message with an entry of its own is an error by its kind. -/
theorem kind_of_entry (h : m.IsEntry) : m.kind = .error := by
  have herror : m.severity = 1 ∨ m.severity = 2 := h.1
  have hcode : m.code ≠ traceHeaderCode := h.2
  rw [kind, if_pos herror, if_neg hcode]

/-- An error that goes on with the one before it is a trace header by its kind. -/
theorem kind_of_header (h : m.IsHeader) : m.kind = .traceHeader := by
  have herror : m.severity = 1 ∨ m.severity = 2 := h.1
  have hcode : m.code = traceHeaderCode := h.2
  rw [kind, if_pos herror, if_pos hcode]

/-- A message is one or the other, by its code. -/
theorem not_header_of_entry (h : m.IsEntry) : ¬m.IsHeader := fun hheader => h.2 hheader.2

/-- An error is one or the other, so what is neither is no error. -/
theorem not_error (hentry : ¬m.IsEntry) (hheader : ¬m.IsHeader) : ¬m.IsError := by
  intro herror
  by_cases hcode : m.code = 2121
  · exact hheader ⟨herror, hcode⟩
  · exact hentry ⟨herror, hcode⟩

/-- The error that a message reports, with the text of trace headers on further lines. -/
def reported (m : Message) (headers : List Message) : ReportedError where
  code := m.code
  message := headers.foldl (fun text header => text ++ "\n" ++ header.trimmedText) m.trimmedText
  location := Location.find? m.text

end Message

namespace ReportedError

/-- The trace headers among messages up to the next error. -/
def headers (messages : List Message) : List Message :=
  (messages.takeWhile fun m => ¬m.IsEntry).filter fun m => m.IsHeader

/-- The errors that messages report. -/
def ofMessages : List Message → List ReportedError
  | [] => []
  | m :: rest =>
    if m.IsEntry then m.reported (headers rest) :: ofMessages rest else ofMessages rest

/-- The headers end at the first message with an entry of its own. -/
theorem headers_cons (first : Message) (rest : List Message) :
    headers (first :: rest) =
      if first.IsEntry then []
      else if first.IsHeader then first :: headers rest
      else headers rest := by
  by_cases hentry : first.IsEntry
  · simp [headers, hentry]
  · by_cases hheader : first.IsHeader <;> simp [headers, hentry, hheader]

section Concat

variable (messages : List Message) (m : Message)

/-- One more header belongs to what comes before it unless there is an error in between. -/
theorem headers_concat :
    headers (messages ++ [m]) =
      if m.IsHeader ∧ ofMessages messages = [] then headers messages ++ [m]
      else headers messages := by
  induction messages with
  | nil =>
    rw [List.nil_append, headers_cons]
    by_cases hheader : m.IsHeader
    · have hentry : ¬m.IsEntry := fun hentry => Message.not_header_of_entry hentry hheader
      simp [hheader, hentry, ofMessages, headers]
    · simp [hheader, headers]
  | cons first rest ih =>
    rw [List.cons_append, headers_cons, headers_cons, ih]
    by_cases hentry : first.IsEntry
    · simp [hentry, ofMessages]
    · by_cases hnone : m.IsHeader ∧ ofMessages rest = []
      · by_cases hheader : first.IsHeader <;> simp [hentry, hheader, hnone, ofMessages]
      · simp only [ofMessages, hentry, hnone, if_false]

/-- Text for the last error passes the ones before it by. -/
theorem extendLast_cons (text : String) (e : ReportedError) {es : List ReportedError}
    (h : es ≠ []) : Snapshot.extendLast text (e :: es) = e :: Snapshot.extendLast text es := by
  obtain ⟨second, others, rfl⟩ := List.exists_cons_of_ne_nil h
  rfl

/-- One more message is an error of its own, or more text for the last error, or neither. -/
theorem ofMessages_concat :
    ofMessages (messages ++ [m]) =
      if m.IsEntry then ofMessages messages ++ [m.reported []]
      else if m.IsHeader then Snapshot.extendLast m.trimmedText (ofMessages messages)
      else ofMessages messages := by
  induction messages with
  | nil => simp [ofMessages, headers, Snapshot.extendLast]
  | cons first rest ih =>
    rw [List.cons_append, ofMessages, ofMessages, ih, headers_concat]
    by_cases hfirst : first.IsEntry
    · rw [if_pos hfirst, if_pos hfirst]
      by_cases hentry : m.IsEntry
      · simp [hentry, Message.not_header_of_entry hentry]
      by_cases hheader : m.IsHeader
      · by_cases hnone : ofMessages rest = []
        · -- the header belongs to the first error, which is the last one as well
          simp [hentry, hheader, hnone, Snapshot.extendLast, Message.reported]
        · simp [hentry, hheader, hnone, extendLast_cons]
      · simp [hentry, hheader]
    · simp [hfirst]

end Concat

/-- The diagnostic of an error: its message, at its range or else at the start of the file. -/
def diagnostic (e : ReportedError) : Diagnostic :=
  ⟨e.location.elim .atStart (·.range), .error, e.message⟩

/-- Whether an error in the output of a run on a file belongs to the file `q`: the file of the run if
the error has no place, and otherwise the file of the module in the folder of that file. -/
def BelongsTo (file q : Path) (e : ReportedError) : Prop :=
  match e.location with
  | none => q.Same file
  | some l => q.components = (file.parent?.getD ⟨""⟩).components ++ [.name l.fileName]

instance (file q : Path) (e : ReportedError) : Decidable (e.BelongsTo file q) := by
  unfold BelongsTo
  split <;> exact inferInstance

/-- An error that a message reports is in a file by itself. -/
theorem isName_of_mem {messages : List Message} {e : ReportedError} (h : e ∈ ofMessages messages)
    {l : Location} (hl : e.location = some l) : Path.IsName l.fileName := by
  induction messages with
  | nil => cases h
  | cons first rest ih =>
    rw [ofMessages] at h
    split at h
    · rcases List.mem_cons.mp h with rfl | h
      · exact Location.isName_fileName hl
      · exact ih h
    · exact ih h

end ReportedError

namespace Snapshot

variable {zone : Zone} (now : Moment) (m : Message) (s : Snapshot)

/-- A notice does not change the errors. -/
theorem errors_note : (s.note zone now m).errors = s.errors := by
  unfold note
  split <;> rfl

/-- What a message does to the errors. -/
theorem errors_apply :
    (s.apply zone now m).errors =
      if m.IsEntry then s.errors ++ [m.reported []]
      else if m.IsHeader then extendLast m.trimmedText s.errors
      else s.errors := by
  by_cases hentry : m.IsEntry
  · rw [if_pos hentry, apply, Message.kind_of_entry hentry]
    rfl
  rw [if_neg hentry]
  by_cases hheader : m.IsHeader
  · rw [if_pos hheader, apply, Message.kind_of_header hheader]
  have herror : ¬m.IsError := Message.not_error hentry hheader
  rw [if_neg hheader]
  by_cases hwarning : m.severity = 3
  · rw [apply, Message.kind_of_warning hwarning]
  · rw [apply, Message.kind_of_notice herror hwarning]
    exact errors_note now m s

/-- The errors after messages are those that the messages report. -/
theorem errors_applyAll (file : Path) (applied : List (Moment × Message)) :
    ((initial file).applyAll zone applied).errors = ReportedError.ofMessages (applied.map Prod.snd) := by
  induction applied using List.reverseRecOn with
  | nil => rfl
  | append_singleton front p ih =>
    rw [applyAll_append, applyAll, applyAll, errors_apply, ih, List.map_append, List.map_singleton,
      ReportedError.ofMessages_concat]

end Snapshot

namespace Output

open ReportedError (ofMessages)

/-- After a run of reading the errors are those that the applied messages report. -/
theorem errors_after (file : Path) (limit : Nat) (zone : Zone) (inputs : List Input) :
    ((start file limit zone).after inputs).snapshot.errors = ofMessages (messages inputs) := by
  rw [after_snapshot]
  exact Snapshot.errors_applyAll file (applied inputs [])

/-! ### Diagnostics -/

/-- An error as a diagnostic of the file it is placed in. -/
def placed (file : Path) (e : ReportedError) : Path × Diagnostic := ((place file e).1, e.diagnostic)

/-- The diagnostics of errors in the output of a run on a file. -/
def collected (file : Path) (errors : List ReportedError) : Collection :=
  (Collection.forFile file).addAll (errors.map (placed file))

/-- The diagnostics of a snapshot are its errors, each put at its place, with the checked file listed
even without any. -/
theorem diagnosticsOf_eq (s : Snapshot) : diagnosticsOf s = collected s.modelFile s.errors := by
  have hadd : ∀ (c : Collection) (e : ReportedError),
      c.add (place s.modelFile e).1 ⟨(place s.modelFile e).2, .error, e.message⟩ =
        c.add (placed s.modelFile e).1 (placed s.modelFile e).2 := by
    intro c e
    obtain ⟨code, message, location⟩ := e
    cases location <;> rfl
  simp only [diagnosticsOf, collected, Collection.addAll, List.foldl_map, hadd]

/-- The diagnostics among errors that belong to a file. -/
def listed (file : Path) (errors : List ReportedError) (q : Path) : List Diagnostic :=
  (errors.filter (·.BelongsTo file q)).map ReportedError.diagnostic

/-- An error with a place is in the file of its module, which lies in the folder of the file. -/
theorem place_of_location {file : Path} {e : ReportedError} {l : Location}
    (hl : e.location = some l) (hname : Path.IsName l.fileName) :
    (place file e).1 = (file.parent?.getD ⟨""⟩).join ⟨l.moduleName ++ ".tla"⟩ ∧
      (place file e).1.components =
        (file.parent?.getD ⟨""⟩).components ++ [.name l.fileName] := by
  have hplace : (place file e).1 = (file.parent?.getD ⟨""⟩).join ⟨l.moduleName ++ ".tla"⟩ := by
    simp only [place, hl]
  have hjoin := Path.components_join (file.parent?.getD ⟨""⟩) hname
  rw [Location.fileName, String.ofList_toList] at hjoin
  rw [hplace]
  exact ⟨rfl, hjoin⟩

/-- An error is placed in the file that it belongs to. -/
theorem place_same_iff {file q : Path} {e : ReportedError}
    (h : ∀ l, e.location = some l → Path.IsName l.fileName) :
    (place file e).1.Same q ↔ e.BelongsTo file q := by
  cases hl : e.location with
  | none =>
    simp only [place, hl, ReportedError.BelongsTo]
    exact eq_comm
  | some l =>
    have hcomponents : (place file e).1.components = _ := (place_of_location hl (h l hl)).2
    rw [Path.Same, hcomponents]
    simp only [ReportedError.BelongsTo, hl]
    exact eq_comm

section Collected

variable {file : Path} {errors : List ReportedError} {entry : Path × List Diagnostic}
  (h : ∀ e ∈ errors, ∀ l, e.location = some l → Path.IsName l.fileName)

/-- The files come in the order of paths. -/
theorem ordered_collected : Collection.Ordered (collected file errors).files :=
  Collection.ordered_addAll _ (Collection.ordered_forFile file)

include h

/-- A file has what is listed for it, if it is the file of the run or has anything. -/
theorem get?_collected (q : Path) :
    (collected file errors).get? q =
      if q.Same file ∨ listed file errors q ≠ [] then some (listed file errors q) else none := by
  have hfilter : errors.filter ((fun entry => decide (entry.1.Same q)) ∘ placed file) =
      errors.filter (·.BelongsTo file q) :=
    List.filter_congr fun e he => decide_eq_decide.mpr (place_same_iff (h e he))
  have hlisting : Collection.listing q (errors.map (placed file)) = listed file errors q := by
    rw [Collection.listing, List.filter_map, List.map_map, hfilter]
    rfl
  have hfirst : (Collection.forFile file).get? q = if file.Same q then some [] else none :=
    Collection.get?_cons file [] [] q
  have hsame : file.Same q ↔ q.Same file := eq_comm
  rw [collected, Collection.get?_addAll _ (Collection.ordered_forFile file), hlisting, hfirst]
  by_cases hq : q.Same file <;> by_cases hnone : listed file errors q = [] <;>
    simp_all

/-- A file that is there has what is listed for it, all of it and in order. -/
theorem listed_of_mem (hentry : entry ∈ (collected file errors).files) :
    entry.2 = listed file errors entry.1 := by
  have hfound := Collection.get?_of_mem ordered_collected hentry
  rw [get?_collected h] at hfound
  split at hfound
  · exact (Option.some.inj hfound).symm
  · cases hfound

/-- A file that has an entry is the file of the run or that of a module that an error names. -/
theorem key_of_mem (hentry : entry ∈ (collected file errors).files) :
    entry.1 = file ∨ ∃ e ∈ errors, ∃ l ∈ e.location,
      entry.1 = (file.parent?.getD ⟨""⟩).join ⟨l.moduleName ++ ".tla"⟩ ∧
        entry.1.components = (file.parent?.getD ⟨""⟩).components ++ [.name l.fileName] := by
  have hkey : entry.1 ∈ Collection.keys (collected file errors).files := List.mem_map_of_mem hentry
  have hordered := Collection.ordered_forFile file
  rcases Collection.mem_keys_of_addAll _ hordered hkey with hkey | ⟨_, hadded, hplace⟩
  · exact .inl (List.mem_singleton.mp hkey)
  · obtain ⟨e, he, rfl⟩ := List.mem_map.mp hadded
    rw [← hplace, placed]
    cases hl : e.location with
    | none => exact .inl (by simp only [place, hl])
    | some l => exact .inr ⟨e, he, l, hl, place_of_location hl (h e he l hl)⟩

end Collected

/-- The errors of a run are the applied messages of severity 1 and 2 except trace headers, in order,
each with its code, the place in its own text, and its trimmed text with that of the trace headers
before the next error on further lines. Among the diagnostics the file of the run is always listed;
there are as many as errors; a file has just the errors that belong to it, in order, under every
spelling of its path, and is listed once. A file that is listed is the file of the run or that of a
module that an error names, which lies directly in the folder of the file of the run. -/
theorem errors_accounted (file : Path) (limit : Nat) (zone : Zone) (inputs : List Input) :
    let o := (start file limit zone).after inputs
    let errors := o.snapshot.errors
    let folder := file.parent?.getD ⟨""⟩
    let belonging := fun q => (errors.filter (·.BelongsTo file q)).map ReportedError.diagnostic
    errors = ofMessages (messages inputs) ∧
      file ∈ Collection.keys o.diagnostics.files ∧
      o.diagnostics.total = errors.length ∧
      (∀ q, o.diagnostics.get? q =
        if q.Same file ∨ belonging q ≠ [] then some (belonging q) else none) ∧
      o.diagnostics.files.Pairwise (fun a b => ¬a.1.Same b.1) ∧
      ∀ entry ∈ o.diagnostics.files, entry.2 = belonging entry.1 ∧
        (entry.1 = file ∨ ∃ e ∈ errors, ∃ l ∈ e.location,
          entry.1 = folder.join ⟨l.moduleName ++ ".tla"⟩ ∧
            entry.1.components = folder.components ++ [.name l.fileName]) := by
  intro o errors folder belonging
  have herrors : errors = ofMessages (messages inputs) := errors_after file limit zone inputs
  have hnames : ∀ e ∈ errors, ∀ l, e.location = some l → Path.IsName l.fileName := by
    intro e he l hl
    exact ReportedError.isName_of_mem (herrors ▸ he) hl
  have hfile : o.snapshot.modelFile = file := (grows_after inputs (start file limit zone)).modelFile
  have hdiagnostics : o.diagnostics = collected file errors := by
    rw [diagnostics, diagnosticsOf_eq, hfile]
  rw [hdiagnostics]
  refine ⟨herrors, ?_, ?_, get?_collected hnames, ?_, fun entry hentry => ?_⟩
  · exact Collection.mem_keys_addAll_of_mem _ (Collection.ordered_forFile file) List.mem_cons_self
  · rw [collected, Collection.total_addAll, List.length_map]
    exact Nat.zero_add _
  · exact ordered_collected.imp fun hlt hsame => by simp [Path.compare_eq_iff.mpr hsame] at hlt
  · exact ⟨listed_of_mem hnames hentry, key_of_mem hnames hentry⟩

/-- The lines of an error with a trace header, and of one that names another module. -/
def twoErrors : List Input :=
  violation ++
    [.line default "@!@!@STARTMSG 2121:1 @!@!@".toList,
      .line default "The behavior up to this point is:".toList,
      .line default "@!@!@ENDMSG 2121 @!@!@".toList,
      .line default "@!@!@STARTMSG 1000:1 @!@!@".toList,
      .line default "Unknown operator, line 4, col 9 to line 4, col 13 of module Buffer".toList,
      .flush default]

/-- What is listed for the second one, in the file of the module that it names. -/
def secondError : Path × List Diagnostic :=
  (⟨"/specs/Buffer.tla"⟩, [⟨⟨⟨3, 8⟩, ⟨3, 13⟩⟩, .error,
    "Unknown operator, line 4, col 9 to line 4, col 13 of module Buffer"⟩])

/-- The file of the second error lists what belongs to it and lies beside the file of the run. -/
theorem twoErrors_accounted :
    let o := (start ⟨"/specs/Queue.tla"⟩).after twoErrors
    secondError ∈ o.diagnostics.files ∧
      secondError.2 = (o.snapshot.errors.filter
        (·.BelongsTo ⟨"/specs/Queue.tla"⟩ secondError.1)).map ReportedError.diagnostic ∧
      ∃ l, secondError.1.components = Path.components ⟨"/specs"⟩ ++ [.name (Location.fileName l)] := by
  intro o
  have hlisted : secondError ∈ o.diagnostics.files := by decide +kernel
  have hfolder : Path.parent? ⟨"/specs/Queue.tla"⟩ = some ⟨"/specs"⟩ := by decide +kernel
  obtain ⟨_, _, _, _, _, hentry⟩ :=
    errors_accounted ⟨"/specs/Queue.tla"⟩ defaultTailLimit .utc twoErrors
  obtain ⟨hown, hfile | ⟨_, _, l, _, _, hcomponents⟩⟩ := hentry secondError hlisted
  · exact absurd hfile (by decide)
  · rw [hfolder] at hcomponents
    exact ⟨hlisted, hown, l, hcomponents⟩

end Output

end ModelCheck
