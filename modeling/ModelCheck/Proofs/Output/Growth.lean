import ModelCheck.Proofs.Output.Verdict

/-!
# Snapshots only grow

What has been shown of a run is not taken back. From one snapshot to a later one, reports and warnings
are added at the end, and so are errors, of which only the last one's message may still get more text.
The verdict goes up or stays, and what is known of the run stays known.
-/

namespace ModelCheck

/-! ### Errors -/

namespace ReportedError

/-- Whether an error is the earlier one, its message perhaps with more text on lines of its own. -/
structure Continues (e e' : ReportedError) : Prop where
  code : e'.code = e.code
  location : e'.location = e.location
  message : e'.message = e.message ∨ ∃ more, e'.message = e.message ++ "\n" ++ more

namespace Continues

variable {e e' e'' : ReportedError}

/-- An error goes on with itself. -/
theorem refl (e : ReportedError) : e.Continues e := ⟨rfl, rfl, .inl rfl⟩

/-- What goes on with an error that goes on goes on with the first one: text behind text is text. -/
theorem trans (h : e.Continues e') (h' : e'.Continues e'') : e.Continues e'' := by
  refine ⟨h'.code.trans h.code, h'.location.trans h.location, ?_⟩
  rcases h'.message with hsame' | ⟨more', hmore'⟩
  · rw [hsame']
    exact h.message
  · rcases h.message with hsame | ⟨more, hmore⟩
    · exact .inr ⟨more', by rw [hmore', hsame]⟩
    · exact .inr ⟨more ++ "\n" ++ more', by simp only [hmore', hmore, String.append_assoc]⟩

end Continues

/-- Whether errors are the earlier ones with others behind them. Only the last of the earlier ones may
have got more text. -/
structure Grow (es es' : List ReportedError) : Prop where
  length_le : es.length ≤ es'.length
  settled : ∀ i, i + 1 < es.length → es'[i]? = es[i]?
  continued : ∀ (i : Nat) (e : ReportedError), es[i]? = some e → ∃ e', es'[i]? = some e' ∧ e.Continues e'

namespace Grow

variable {es es' es'' : List ReportedError}

/-- A list grows into itself. -/
theorem refl (es : List ReportedError) : Grow es es :=
  ⟨Nat.le_refl _, fun _ _ => rfl, fun _ e he => ⟨e, he, .refl e⟩⟩

/-- Growing twice is growing, error by error. -/
theorem trans (h : Grow es es') (h' : Grow es' es'') : Grow es es'' := by
  have hlength := h.length_le
  refine ⟨Nat.le_trans hlength h'.length_le, fun i hi => ?_, fun i e he => ?_⟩
  · rw [h'.settled i (by omega), h.settled i hi]
  · obtain ⟨e', he', hcontinues⟩ := h.continued i e he
    obtain ⟨e'', he'', hcontinues'⟩ := h'.continued i e' he'
    exact ⟨e'', he'', hcontinues.trans hcontinues'⟩

/-- Errors at the end make a list grow. -/
theorem append (es new : List ReportedError) : Grow es (es ++ new) := by
  refine ⟨by simp, fun i hi => List.getElem?_append_left (by omega), fun i e he => ?_⟩
  have hi : i < es.length := (List.getElem?_eq_some_iff.mp he).1
  exact ⟨e, by rw [List.getElem?_append_left hi, he], .refl e⟩

end Grow

/-- Text that is added to the last error leaves the others alone. -/
theorem grow_extendLast (text : String) (es : List ReportedError) :
    Grow es (Snapshot.extendLast text es) := by
  induction es with
  | nil => exact .refl []
  | cons first rest ih =>
    cases rest with
    | nil =>
      refine ⟨Nat.le_refl _, fun i hi => absurd hi (by simp), fun i e he => ?_⟩
      obtain ⟨rfl, rfl⟩ : i = 0 ∧ first = e := by
        cases i with
        | zero => simpa using he
        | succ i => simp at he
      exact ⟨_, rfl, rfl, rfl, .inr ⟨text, rfl⟩⟩
    | cons second others =>
      rw [Snapshot.extendLast]
      · refine ⟨by simpa using ih.length_le, fun i hi => ?_, fun i e he => ?_⟩
        · cases i with
          | zero => rfl
          | succ i => simpa using ih.settled i (by simpa using hi)
        · cases i with
          | zero => exact ⟨e, he, .refl e⟩
          | succ i => exact ih.continued i e he
      · simp

end ReportedError

/-! ### Snapshots -/

/-- Verdicts in ascending order: none, success, error. -/
def Verdict.rank : Option Verdict → Nat
  | none => 0
  | some .success => 1
  | some .error => 2

/-- Verdicts of one rank are the same. -/
theorem Verdict.rank_inj {v w : Option Verdict} : rank v = rank w ↔ v = w := by
  rcases v with _ | (_ | _) <;> rcases w with _ | (_ | _) <;> decide

namespace Snapshot

/-- Whether a later snapshot shows all that an earlier one shows. -/
structure Grows (s t : Snapshot) : Prop where
  progress : s.progress <+: t.progress
  warnings : s.warnings <+: t.warnings
  errors : ReportedError.Grow s.errors t.errors
  verdict : Verdict.rank s.verdict ≤ Verdict.rank t.verdict
  modelFile : t.modelFile = s.modelFile
  mode : s.mode.isSome → t.mode.isSome
  startedAt : s.startedAt.isSome → t.startedAt.isSome
  finishedAt : s.finishedAt.isSome → t.finishedAt.isSome

namespace Grows

variable {s t u : Snapshot}

/-- A snapshot grows into itself. -/
theorem refl (s : Snapshot) : s.Grows s :=
  ⟨List.prefix_rfl, List.prefix_rfl, .refl _, Nat.le_refl _, rfl, id, id, id⟩

/-- Growing twice is growing, in each of the fields. -/
theorem trans (h : s.Grows t) (h' : t.Grows u) : s.Grows u where
  progress := h.progress.trans h'.progress
  warnings := h.warnings.trans h'.warnings
  errors := h.errors.trans h'.errors
  verdict := Nat.le_trans h.verdict h'.verdict
  modelFile := h'.modelFile.trans h.modelFile
  mode := h'.mode ∘ h.mode
  startedAt := h'.startedAt ∘ h.startedAt
  finishedAt := h'.finishedAt ∘ h.finishedAt

/-- The tail and the coverage are no part of what grows. -/
theorem withTail (h : s.Grows t) (tail : List String) : s.Grows (t.withTail tail) := { h with }

/-- The coverage may change freely, since a new report replaces the one before. -/
theorem withCoverage (h : s.Grows t) (coverage : List Coverage) :
    s.Grows { t with coverage := coverage } := { h with }

end Grows

/-- Success is a verdict only where there is none yet. -/
theorem rank_getD (verdict : Option Verdict) :
    Verdict.rank verdict ≤ Verdict.rank (some (verdict.getD .success)) := by
  rcases verdict with _ | (_ | _) <;> decide

/-- No verdict is above that of an error. -/
theorem rank_le_error (verdict : Option Verdict) :
    Verdict.rank verdict ≤ Verdict.rank (some .error) := by
  rcases verdict with _ | (_ | _) <;> decide

variable {zone : Zone} (now : Moment) (m : Message) (s : Snapshot)

/-- A notice only adds to a snapshot. -/
theorem grows_note : s.Grows (s.note zone now m) := by
  have hrefl := Grows.refl s
  unfold note
  cases Message.Topic.ofCode m.code with
  | starting => exact { hrefl with startedAt := fun _ => rfl }
  | mode => exact { hrefl with mode := fun _ => rfl }
  | statistics => exact { hrefl with progress := List.prefix_append _ _ }
  | success => exact { hrefl with verdict := rank_getD s.verdict }
  | finished => exact { hrefl with finishedAt := fun _ => rfl }
  | _ => exact { hrefl with }

/-- A message of whatever kind only lets the snapshot grow. -/
theorem grows_apply : s.Grows (s.apply zone now m) := by
  have hrefl := Grows.refl s
  unfold apply
  cases m.kind with
  | traceHeader =>
    exact { hrefl with
      errors := ReportedError.grow_extendLast m.trimmedText s.errors
      verdict := rank_le_error s.verdict }
  | error =>
    exact { hrefl with
      errors := .append s.errors _
      verdict := rank_le_error s.verdict }
  | warning => exact { hrefl with warnings := List.prefix_append _ _ }
  | notice => exact (grows_note now m s).withCoverage _

/-- Applied messages only add to a snapshot. -/
theorem grows_applyAll (applied : List (Moment × Message)) : s.Grows (s.applyAll zone applied) := by
  induction applied generalizing s with
  | nil => exact .refl s
  | cons p rest ih => exact (grows_apply p.1 p.2 s).trans (ih _)

end Snapshot

namespace Output

/-- A step only adds to the snapshot. The tail is left aside, since its front is dropped. -/
theorem grows_step (i : Input) (o : Output) : o.snapshot.Grows (o.step i).1.snapshot := by
  rw [step_snapshot]
  exact (Snapshot.grows_applyAll _ _).withTail _

/-- Whatever inputs come, they only add to the snapshot. -/
theorem grows_after (inputs : List Input) (o : Output) :
    o.snapshot.Grows (o.after inputs).snapshot := by
  induction inputs generalizing o with
  | nil => exact .refl _
  | cons i rest ih => exact (grows_step i o).trans (ih _)

/-- Every snapshot that inputs deliver is the snapshot of the state after some of them. -/
theorem mem_delivered {inputs : List Input} {o : Output} {s : Snapshot}
    (h : s ∈ o.delivered inputs) : ∃ front, front <+: inputs ∧ s = (o.after front).snapshot := by
  induction inputs generalizing o with
  | nil => cases h
  | cons i rest ih =>
    rw [delivered_cons, List.mem_append] at h
    rcases h with h | h
    · rw [step_answer] at h
      refine ⟨[i], by simp, ?_⟩
      split at h
      · cases h
      · exact List.mem_singleton.mp h
    · obtain ⟨front, hfront, hs⟩ := ih h
      exact ⟨i :: front, (List.cons_prefix_cons).mpr ⟨rfl, hfront⟩, hs⟩

/-- The state and what inputs deliver from it on. -/
theorem pairwise_grows (inputs : List Input) (o : Output) :
    (o.snapshot :: o.delivered inputs).Pairwise Snapshot.Grows := by
  induction inputs generalizing o with
  | nil => exact List.pairwise_singleton _ _
  | cons i rest ih =>
    have hfirst : ∀ t ∈ o.delivered (i :: rest), o.snapshot.Grows t := by
      intro t ht
      obtain ⟨front, -, rfl⟩ := mem_delivered ht
      exact grows_after front o
    have hlater := ih (o.step i).1
    refine .cons hfirst ?_
    rw [delivered_cons, step_answer]
    split
    · exact (List.pairwise_cons.mp hlater).2
    · exact hlater

/-- Of any two snapshots that are delivered in a run of reading, by lines or by flushes, the later one
shows all that the earlier one shows: its reports and its warnings come first, its errors come first
with their codes, places and messages, except that the last message may go on on further lines, its
verdict is not above the later one, the file is the same, and a mode, a start and an end that are known
stay known. The snapshot before anything has been read counts as the first. -/
theorem delivered_grow (file : Path) (limit : Nat) (zone : Zone) (inputs : List Input) :
    (Snapshot.initial file :: (start file limit zone).delivered inputs).Pairwise Snapshot.Grows :=
  pairwise_grows inputs (start file limit zone)

end Output

end ModelCheck
