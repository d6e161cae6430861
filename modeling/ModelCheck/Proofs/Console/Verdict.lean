import ModelCheck.Proofs.Console.Updates

/-!
# The verdict that has been told

The cursor remembers the verdict that was told last, and no verdict as long as none was told. A finished
run without a verdict is therefore told only behind one that has a verdict: once a verdict was told, the
last one told is that of the last finished snapshot, whatever it is.
-/

namespace ModelCheck.Console

/-- The snapshots of a run at its end. -/
def finishedAmong (snapshots : List Snapshot) : List Snapshot :=
  snapshots.filter fun s => s.phase = .finished

/-- The cursor after snapshots have been shown on a display that was opened for them. -/
def cursorAfter (snapshots : List Snapshot) : Cursor := snapshots.foldl Cursor.advance .start

/-- The verdicts that are told when snapshots are shown one after the other. -/
def told (snapshots : List Snapshot) : List (Option Verdict) :=
  (itemsAlong .start snapshots).flatten.filterMap Item.verdict?

/-! ### One snapshot more -/

section Step

variable (c : Cursor) (s : Snapshot) (front : List Snapshot)

/-- What a snapshot adds, its verdict apart. -/
def otherItems : List Item :=
  (if s.phase = c.phase then [] else [.phase s.phase])
    ++ (s.progress.drop c.progress).map .progress
    ++ (s.warnings.drop c.warnings).map .warning
    ++ (s.errors.drop c.errors).map .error

/-- The verdict comes last. -/
theorem newItems_eq :
    newItems c s = otherItems c s ++ if verdictDue c s then [.verdict s] else [] := rfl

/-- No other item tells a verdict. -/
theorem verdict?_of_mem_otherItems {c : Cursor} {s : Snapshot} {i : Item}
    (h : i ∈ otherItems c s) : i.verdict? = none := by
  simp only [otherItems, List.mem_append, List.mem_map] at h
  rcases h with ((hphase | ⟨_, -, rfl⟩) | ⟨_, -, rfl⟩) | ⟨_, -, rfl⟩
  · split at hphase
    · cases hphase
    · rw [List.mem_singleton.mp hphase]
      rfl
  · rfl
  · rfl
  · rfl

/-- A verdict is due at the end of a run when it is not the one that was told last. -/
theorem verdictDue_iff {c : Cursor} {s : Snapshot} :
    verdictDue c s = true ↔ s.phase = .finished ∧ s.verdict ≠ c.verdict := by
  simp [verdictDue]

/-- A finished snapshot leaves its verdict in the cursor, whether it was due or told before. -/
theorem verdict_advance :
    (c.advance s).verdict = if s.phase = .finished then s.verdict else c.verdict := by
  by_cases hdue : verdictDue c s = true
  · have hfinished := (verdictDue_iff.mp hdue).1
    rw [if_pos hfinished, verdict_advance_of_due hdue]
  · rw [verdict_advance_of_not_due hdue]
    split
    · next hfinished =>
      by_contra hne
      exact hdue (verdictDue_iff.mpr ⟨hfinished, fun h => hne h.symm⟩)
    · rfl

/-- Snapshots that come later add their items behind those of the snapshots before, as the cursor has
moved on. -/
theorem itemsAlong_append (rest : List Snapshot) :
    itemsAlong c (front ++ rest) =
      itemsAlong c front ++ itemsAlong (front.foldl Cursor.advance c) rest := by
  induction front generalizing c with
  | nil => rfl
  | cons first front ih => simp only [List.cons_append, itemsAlong, ih, List.foldl_cons]

/-- The last snapshot moves the cursor on from where the others have left it. -/
theorem cursorAfter_concat : cursorAfter (front ++ [s]) = (cursorAfter front).advance s := by
  simp only [cursorAfter, List.foldl_append, List.foldl_cons, List.foldl_nil]

/-- One snapshot more tells its verdict if that is due. -/
theorem told_concat_due :
    told (front ++ [s]) =
      told front ++ if verdictDue (cursorAfter front) s then [s.verdict] else [] := by
  rw [told, told, cursorAfter, itemsAlong_append, List.flatten_append, List.filterMap_append]
  simp only [itemsAlong, List.flatten_cons, List.flatten_nil, List.append_nil, verdicts_newItems]

end Step

/-! ### The cursor -/

section Run

variable (snapshots : List Snapshot)

/-- The cursor holds the verdict of the last finished snapshot. -/
theorem verdict_cursorAfter :
    (cursorAfter snapshots).verdict =
      ((finishedAmong snapshots).getLast?.map Snapshot.verdict).getD none := by
  induction snapshots using List.reverseRecOn with
  | nil => rfl
  | append_singleton front s ih =>
    rw [cursorAfter_concat, verdict_advance, ih]
    by_cases hfinished : s.phase = .finished <;> simp [finishedAmong, hfinished]

/-- The cursor holds the verdict that was told last, and none if none was told. -/
theorem verdict_cursorAfter_eq_told :
    (cursorAfter snapshots).verdict = (told snapshots).getLast?.getD none := by
  induction snapshots using List.reverseRecOn with
  | nil => rfl
  | append_singleton front s ih =>
    rw [cursorAfter_concat, told_concat_due]
    by_cases hdue : verdictDue (cursorAfter front) s = true
    · simp [verdict_advance_of_due hdue, hdue]
    · simp [verdict_advance_of_not_due hdue, hdue, ih]

/-- No verdict is told as long as no finished snapshot has one. -/
theorem told_eq_nil_iff : told snapshots = [] ↔ ∀ s ∈ finishedAmong snapshots, s.verdict = none := by
  induction snapshots using List.reverseRecOn with
  | nil => exact ⟨fun _ => List.forall_mem_nil _, fun _ => rfl⟩
  | append_singleton front s ih =>
    have hlast := verdict_cursorAfter_eq_told front
    have hdue : told front = [] →
        (verdictDue (cursorAfter front) s = true ↔ s.phase = .finished ∧ s.verdict ≠ none) := by
      intro hnone
      rw [hnone] at hlast
      rw [verdictDue_iff, hlast]
      rfl
    rw [told_concat_due, List.append_eq_nil_iff]
    constructor
    · rintro ⟨hnone, hs⟩ t ht
      rw [finishedAmong, List.filter_append, List.mem_append] at ht
      rcases ht with ht | ht
      · exact ih.mp hnone t ht
      · obtain ⟨rfl, hfinished⟩ : t = s ∧ t.phase = .finished := by simpa using ht
        by_contra hverdict
        rw [if_pos ((hdue hnone).mpr ⟨hfinished, hverdict⟩)] at hs
        cases hs
    · intro hall
      have hnone : told front = [] := by
        refine ih.mpr fun t ht => hall t ?_
        rw [finishedAmong, List.filter_append]
        exact List.mem_append_left _ ht
      refine ⟨hnone, if_neg fun hs => ?_⟩
      obtain ⟨hfinished, hverdict⟩ := (hdue hnone).mp hs
      exact hverdict (hall s (by simp [finishedAmong, hfinished]))

/-- Once a verdict was told, the last one is that of the last finished snapshot. -/
theorem getLast?_told (h : told snapshots ≠ []) :
    (told snapshots).getLast? = (finishedAmong snapshots).getLast?.map Snapshot.verdict := by
  have hcursor : (told snapshots).getLast?.getD none =
      ((finishedAmong snapshots).getLast?.map Snapshot.verdict).getD none := by
    rw [← verdict_cursorAfter_eq_told, verdict_cursorAfter]
  have hfinished : finishedAmong snapshots ≠ [] := by
    intro hnone
    have hall : ∀ s ∈ finishedAmong snapshots, s.verdict = none := by
      rw [hnone]
      exact List.forall_mem_nil _
    exact h ((told_eq_nil_iff snapshots).mpr hall)
  rw [List.getLast?_eq_some_getLast h, List.getLast?_eq_some_getLast hfinished] at hcursor ⊢
  simpa only [Option.map_some, Option.getD_some, Option.some.injEq] using hcursor

end Run

/-- What an update prints is the lines for other news and behind them, if it is due, the line for the
verdict. It is due when the snapshot is finished and has another verdict than the one told last, where
no verdict counts as told as long as none was. So the last verdict told is that of the last finished
snapshot if any finished snapshot had a verdict, and otherwise no verdict was told at all. -/
theorem last_verdict_told (m : Markers) (snapshots : List Snapshot) :
    let due := fun (front : List Snapshot) (s : Snapshot) =>
      s.phase = .finished ∧ s.verdict ≠ (told front).getLast?.getD none
    told [] = [] ∧
      (∀ front s, told (front ++ [s]) = told front ++ if due front s then [s.verdict] else []) ∧
      (∀ front s, ∃ others : List Item, (∀ i ∈ others, i.verdict? = none) ∧
        updateLines m (cursorAfter front) s =
          others.map (Item.line m) ++ if due front s then [verdictLine m s] else []) ∧
      (told snapshots).getLast? =
        if ∃ s ∈ finishedAmong snapshots, s.verdict ≠ none then
          (finishedAmong snapshots).getLast?.map Snapshot.verdict
        else none := by
  intro due
  have hdue : ∀ front s, verdictDue (cursorAfter front) s = true ↔ due front s := by
    intro front s
    rw [verdictDue_iff, verdict_cursorAfter_eq_told]
  refine ⟨rfl, fun front s => ?_, fun front s => ?_, ?_⟩
  · rw [told_concat_due]
    simp only [hdue]
  · refine ⟨otherItems (cursorAfter front) s, fun i hi => verdict?_of_mem_otherItems hi, ?_⟩
    rw [updateLines_eq, newItems_eq, List.map_append]
    simp only [hdue]
    split <;> rfl
  · by_cases hnone : told snapshots = []
    · have hverdicts := (told_eq_nil_iff snapshots).mp hnone
      rw [hnone, if_neg (by simpa using hverdicts)]
      rfl
    · have hverdict : ∃ s ∈ finishedAmong snapshots, s.verdict ≠ none := by
        by_contra hall
        exact hnone ((told_eq_nil_iff snapshots).mpr (by simpa using hall))
      rw [if_pos hverdict, getLast?_told snapshots hnone]

/-- The lines of a run that ends with neither success nor an error. -/
def withoutVerdict : List Output.Input :=
  [.line default "@!@!@STARTMSG 2186:0 @!@!@".toList,
    .line default "Finished in 01s at (2024-01-02 10:11:13)".toList,
    .line default "@!@!@ENDMSG 2186 @!@!@".toList]

/-- The snapshot that they deliver is finished, yet no verdict is told for it, though the summary has a
line that says that there is none. -/
theorem withoutVerdict_untold :
    let o := Output.start ⟨"/specs/Queue.tla"⟩
    let s := (o.after withoutVerdict).snapshot
    o.delivered withoutVerdict = [s] ∧ (finishedAmong [s]).getLast? = some s ∧
      updateLines .ascii .start s = ["- finished"] ∧
      (told [s]).getLast? ≠ some s.verdict ∧
      verdictLine .ascii s = "! Finished without a verdict" ∧
      verdictLine .ascii s ∈ summaryLines .ascii (some s) := by
  decide +kernel

end ModelCheck.Console
