import ModelCheck.Proofs.Output.Growth

/-!
# Coverage and progress of a run

Only notices report coverage and progress. The coverage of a run is what has been reported since the
latest coverage report was opened, whatever the messages are that report it; its progress is what all
progress messages have reported.
-/

namespace ModelCheck

namespace Message

/-- Whether a message is neither an error of any kind nor a warning. -/
def IsNotice (m : Message) : Prop := m.severity ≠ 1 ∧ m.severity ≠ 2 ∧ m.severity ≠ 3

/-- Whether a message opens a coverage report. -/
def OpensReport (m : Message) : Prop := m.code = 2201 ∧ m.IsNotice

/-- Whether a message is a progress report. -/
def IsProgress (m : Message) : Prop := (m.code = 2199 ∨ m.code = 2200) ∧ m.IsNotice

instance (m : Message) : Decidable m.IsNotice := inferInstanceAs (Decidable (_ ∧ _))

instance (m : Message) : Decidable m.OpensReport := inferInstanceAs (Decidable (_ ∧ _))

instance (m : Message) : Decidable m.IsProgress := inferInstanceAs (Decidable (_ ∧ _))

variable {m : Message}

/-- A message is a notice by its kind just if it reports neither an error nor a warning. -/
theorem kind_eq_notice_iff : m.kind = .notice ↔ m.IsNotice := by
  unfold IsNotice
  constructor
  · intro h
    unfold kind at h
    split at h
    · split at h <;> cases h
    · split at h
      · cases h
      · omega
  · intro h
    have herror : ¬m.IsError := by
      unfold IsError
      omega
    exact kind_of_notice herror h.2.2

/-- Just one code opens a coverage report. -/
theorem ofCode_eq_coverage_iff (code : Nat) : Topic.ofCode code = .coverage ↔ code = 2201 := by
  grind [Topic.ofCode]

/-- Just two codes report statistics, one on the way and one at the end. -/
theorem ofCode_eq_statistics_iff (code : Nat) :
    Topic.ofCode code = .statistics ↔ code = 2199 ∨ code = 2200 := by
  grind [Topic.ofCode]

/-- The actions whose coverage the lines of a message report, in order. -/
def actions (m : Message) : List Coverage := m.lines.filterMap Coverage.parse?

end Message

/-! ### The latest report -/

/-- The messages from the last one on that opens a coverage report, all of them if none does. -/
def latestReport : List Message → List Message
  | [] => []
  | m :: rest => if ∃ later ∈ rest, later.OpensReport then latestReport rest else m :: rest

section LatestReport

variable (messages : List Message) (m : Message)

/-- One more message either opens a new report or belongs to the latest one. -/
theorem latestReport_concat :
    latestReport (messages ++ [m]) =
      if m.OpensReport then [m] else latestReport messages ++ [m] := by
  induction messages with
  | nil => simp [latestReport]
  | cons first rest ih =>
    have hlater : (∃ later ∈ rest ++ [m], later.OpensReport) ↔
        (∃ later ∈ rest, later.OpensReport) ∨ m.OpensReport := by
      simp [or_and_right, exists_or]
    rw [List.cons_append, latestReport, latestReport, ih]
    by_cases hopens : m.OpensReport
    · rw [if_pos (hlater.mpr (.inr hopens)), if_pos hopens, if_pos hopens]
    · by_cases hrest : ∃ later ∈ rest, later.OpensReport
      · rw [if_pos (hlater.mpr (.inl hrest)), if_neg hopens, if_pos hrest, if_neg hopens]
      · have hnone : ¬∃ later ∈ rest ++ [m], later.OpensReport := by
          rw [hlater]
          exact fun h => h.elim hrest hopens
        rw [if_neg hnone, if_neg hopens, if_neg hrest, List.cons_append]

/-- The messages of the latest report are the last ones. -/
theorem latestReport_suffix : latestReport messages <:+ messages := by
  induction messages with
  | nil => exact List.suffix_rfl
  | cons first rest ih =>
    rw [latestReport]
    split
    · exact ih.trans (List.suffix_cons first rest)
    · exact List.suffix_rfl

/-- Within the latest report no other one is opened. -/
theorem not_opens_of_mem_tail : ∀ later ∈ (latestReport messages).tail, ¬later.OpensReport := by
  induction messages with
  | nil => nofun
  | cons first rest ih =>
    rw [latestReport]
    split
    · exact ih
    · next hnone => exact fun later hlater hopens => hnone ⟨later, hlater, hopens⟩

/-- The latest report begins with the message that opens it, unless no message opens any. -/
theorem latestReport_opens :
    (∃ first ∈ (latestReport messages).head?, first.OpensReport) ∨
      latestReport messages = messages ∧ ∀ m ∈ messages, ¬m.OpensReport := by
  induction messages with
  | nil => exact .inr ⟨rfl, nofun⟩
  | cons first rest ih =>
    rw [latestReport]
    split
    · next hopens =>
      obtain ⟨later, hlater, hopens⟩ := hopens
      rcases ih with hhead | ⟨-, hnone⟩
      · exact .inl hhead
      · exact absurd hopens (hnone later hlater)
    · next hrest =>
      by_cases hfirst : first.OpensReport
      · exact .inl ⟨first, rfl, hfirst⟩
      · refine .inr ⟨rfl, fun m hm hopens => ?_⟩
        rcases List.mem_cons.mp hm with rfl | hm
        · exact hfirst hopens
        · exact hrest ⟨m, hm, hopens⟩

end LatestReport

/-- The coverage that notices among messages report, in order. -/
def Coverage.ofMessages (messages : List Message) : List Coverage :=
  (messages.filter (·.IsNotice)).flatMap Message.actions

/-- The statistics that progress reports among messages give, in order. -/
def Statistics.ofMessages (messages : List Message) : List Statistics :=
  (messages.filter (·.IsProgress)).filterMap fun m => Statistics.parse? m.text

/-- One more message adds its coverage if it is a notice. -/
theorem Coverage.ofMessages_concat (messages : List Message) (m : Message) :
    ofMessages (messages ++ [m]) =
      if m.IsNotice then ofMessages messages ++ m.actions else ofMessages messages := by
  by_cases hnotice : m.IsNotice <;> simp [ofMessages, hnotice]

/-- One more message adds its statistics if it is a progress report whose text has any. -/
theorem Statistics.ofMessages_concat (messages : List Message) (m : Message) :
    ofMessages (messages ++ [m]) =
      if m.IsProgress then ofMessages messages ++ (Statistics.parse? m.text).toList
      else ofMessages messages := by
  by_cases hprogress : m.IsProgress
  · cases hparse : Statistics.parse? m.text <;> simp [ofMessages, hprogress, hparse]
  · simp [ofMessages, hprogress]

/-! ### Snapshots -/

namespace Snapshot

variable {zone : Zone} (now : Moment) (m : Message) (s : Snapshot)

/-- A notice that opens a coverage report takes away the reports of the one before. -/
theorem coverage_note :
    (s.note zone now m).coverage = if m.code = 2201 then [] else s.coverage := by
  simp only [← Message.ofCode_eq_coverage_iff, note]
  cases Message.Topic.ofCode m.code <;> rfl

/-- A notice with statistics adds them to the progress, and no other notice changes it. -/
theorem progress_note :
    (s.note zone now m).progress =
      if m.code = 2199 ∨ m.code = 2200 then s.progress ++ (Statistics.parse? m.text).toList
      else s.progress := by
  simp only [← Message.ofCode_eq_statistics_iff, note]
  cases Message.Topic.ofCode m.code <;> rfl

/-- A message that is no notice leaves coverage and progress alone. -/
theorem reports_of_not_notice (h : ¬m.IsNotice) :
    (s.apply zone now m).coverage = s.coverage ∧ (s.apply zone now m).progress = s.progress := by
  unfold apply
  cases hkind : m.kind with
  | notice => exact absurd (Message.kind_eq_notice_iff.mp hkind) h
  | traceHeader => exact ⟨rfl, rfl⟩
  | error => exact ⟨rfl, rfl⟩
  | warning => exact ⟨rfl, rfl⟩

/-- What a message does to the coverage: a report that is opened takes the place of the one before, and
the actions of a notice are added behind that. -/
theorem coverage_apply :
    (s.apply zone now m).coverage =
      if m.OpensReport then m.actions
      else if m.IsNotice then s.coverage ++ m.actions
      else s.coverage := by
  by_cases hnotice : m.IsNotice
  · have happly : (s.apply zone now m).coverage = (s.note zone now m).coverage ++ m.actions := by
      rw [apply, Message.kind_eq_notice_iff.mpr hnotice]
      rfl
    rw [happly, coverage_note]
    by_cases hcode : m.code = 2201 <;> simp [Message.OpensReport, hnotice, hcode]
  · rw [(reports_of_not_notice now m s hnotice).1, if_neg fun hopens => hnotice hopens.2,
      if_neg hnotice]

/-- A message changes the progress only as a notice with statistics. -/
theorem progress_apply :
    (s.apply zone now m).progress =
      if m.IsProgress then s.progress ++ (Statistics.parse? m.text).toList else s.progress := by
  by_cases hnotice : m.IsNotice
  · have happly : (s.apply zone now m).progress = (s.note zone now m).progress := by
      rw [apply, Message.kind_eq_notice_iff.mpr hnotice]
    rw [happly, progress_note]
    simp only [Message.IsProgress, hnotice, and_true]
  · rw [(reports_of_not_notice now m s hnotice).2, if_neg fun hprogress => hnotice hprogress.2]

/-- The coverage is that of the latest report among the messages that have been applied. -/
theorem coverage_applyAll (file : Path) (applied : List (Moment × Message)) :
    ((initial file).applyAll zone applied).coverage =
      Coverage.ofMessages (latestReport (applied.map Prod.snd)) := by
  induction applied using List.reverseRecOn with
  | nil => rfl
  | append_singleton front p ih =>
    obtain ⟨now, m⟩ := p
    rw [applyAll_append, applyAll, applyAll, coverage_apply, ih, List.map_append, List.map_singleton,
      latestReport_concat]
    by_cases hopens : m.OpensReport
    · rw [if_pos hopens, if_pos hopens]
      simp [Coverage.ofMessages, hopens.2]
    · rw [if_neg hopens, if_neg hopens, Coverage.ofMessages_concat]

/-- The progress is that of all messages that have been applied. -/
theorem progress_applyAll (file : Path) (applied : List (Moment × Message)) :
    ((initial file).applyAll zone applied).progress = Statistics.ofMessages (applied.map Prod.snd) := by
  induction applied using List.reverseRecOn with
  | nil => rfl
  | append_singleton front p ih =>
    rw [applyAll_append, applyAll, applyAll, progress_apply, ih, List.map_append, List.map_singleton,
      Statistics.ofMessages_concat]

end Snapshot

namespace Output

/-- The coverage after inputs is that of the latest report among their messages. -/
theorem coverage_after (file : Path) (limit : Nat) (zone : Zone) (inputs : List Input) :
    ((start file limit zone).after inputs).snapshot.coverage =
      Coverage.ofMessages (latestReport (messages inputs)) := by
  rw [after_snapshot]
  exact Snapshot.coverage_applyAll file (applied inputs [])

/-- The progress after inputs are the statistics of all their progress reports, in order. -/
theorem progress_after (file : Path) (limit : Nat) (zone : Zone) (inputs : List Input) :
    ((start file limit zone).after inputs).snapshot.progress =
      Statistics.ofMessages (messages inputs) := by
  rw [after_snapshot]
  exact Snapshot.progress_applyAll file (applied inputs [])

/-- An action is covered only because a line of a notice that has been applied says so. -/
theorem exists_line_of_coverage {file : Path} {limit : Nat} {zone : Zone} {inputs : List Input} {c : Coverage}
    (h : c ∈ ((start file limit zone).after inputs).snapshot.coverage) :
    ∃ m ∈ messages inputs, m.IsNotice ∧ ∃ line ∈ m.lines, Coverage.parse? line = some c := by
  rw [coverage_after, Coverage.ofMessages, List.mem_flatMap] at h
  obtain ⟨m, hm, hc⟩ := h
  obtain ⟨hlatest, hnotice⟩ := List.mem_filter.mp hm
  have hmem : m ∈ messages inputs := (latestReport_suffix _).mem hlatest
  exact ⟨m, hmem, of_decide_eq_true hnotice, List.mem_filterMap.mp hc⟩

/-- After any lines, and any flushes, the coverage is what the lines of notices say that have been applied
since the last one that opens a coverage report, that one included, or since the start if there is none:
in the order in which they were applied and of the lines in each. The progress is what the progress
reports among the notices say, in order. Messages of another severity, and text outside messages, say
nothing here. -/
theorem coverage_of_latest_report (file : Path) (limit : Nat) (zone : Zone) (inputs : List Input) :
    let s := ((start file limit zone).after inputs).snapshot
    let applied := messages inputs
    let latest := latestReport applied
    s.coverage = (latest.filter (·.IsNotice)).flatMap (·.lines.filterMap Coverage.parse?) ∧
      latest <:+ applied ∧
      (∀ m ∈ latest.tail, ¬m.OpensReport) ∧
      ((∃ first ∈ latest.head?, first.OpensReport) ∨
        latest = applied ∧ ∀ m ∈ applied, ¬m.OpensReport) ∧
      s.progress = (applied.filter (·.IsProgress)).filterMap (Statistics.parse? ·.text) := by
  intro s applied latest
  exact ⟨coverage_after file limit zone inputs, latestReport_suffix applied,
    not_opens_of_mem_tail applied, latestReport_opens applied, progress_after file limit zone inputs⟩

end Output

end ModelCheck
