import ModelCheck.Proofs.Console.Items
import ModelCheck.Proofs.Console.Writer
import ModelCheck.Proofs.Output.Arrival

/-!
# Printing what is new

While a run goes on, the console prints for each snapshot what is new in it. The cursor only counts what
has been printed; since snapshots only grow, the lines of all updates together are the lines for the
last snapshot, each once and in order, with a line for every change of the phase in between.
-/

namespace ModelCheck.Console

/-! ### Items of a run -/

/-- What each of some snapshots adds when they are shown one after the other. -/
def itemsAlong : Cursor → List Snapshot → List (List Item)
  | _, [] => []
  | c, s :: rest => newItems c s :: itemsAlong (c.advance s) rest

/-- A list that snapshots have and that is printed as it grows: which items are from it, and how the
cursor counts it. -/
structure Listed (β : Type) where
  view : Snapshot → List β
  item? : Item → Option β
  count : Cursor → Nat
  count_start : count .start = 0
  view_initial : ∀ file : Path, view (.initial file) = []
  count_advance : ∀ (c : Cursor) (s : Snapshot), count (c.advance s) = (view s).length
  new : ∀ c s, (newItems c s).filterMap item? = (view s).drop (count c)

namespace Listed

variable {β : Type} (l : Listed β)

/-- What is printed along snapshots in which a list grows is, behind what has been printed, the list in
the last of them. -/
theorem view_append_items {c : Cursor} {s : Snapshot} {snapshots : List Snapshot}
    (hcount : l.count c = (l.view s).length)
    (hgrow : (s :: snapshots).Pairwise fun s t => l.view s <+: l.view t) :
    l.view s ++ (itemsAlong c snapshots).flatten.filterMap l.item? =
      l.view (snapshots.getLastD s) := by
  induction snapshots generalizing c s with
  | nil => exact List.append_nil _
  | cons t rest ih =>
    obtain ⟨hfirst, hrest⟩ := List.pairwise_cons.mp hgrow
    have hnew : l.view s ++ (newItems c t).filterMap l.item? = l.view t := by
      rw [l.new, hcount]
      exact List.prefix_iff_eq_append.mp (hfirst t List.mem_cons_self)
    have hlater := ih (l.count_advance c t) hrest
    rw [itemsAlong, List.flatten_cons, List.filterMap_append, ← List.append_assoc, hnew, hlater,
      List.getLastD_cons]

/-- On a display that has just been opened nothing has been printed, so the list is printed as a whole.
-/
theorem items_from_start {file : Path} {snapshots : List Snapshot}
    (hgrow : (Snapshot.initial file :: snapshots).Pairwise fun s t => l.view s <+: l.view t) :
    (itemsAlong .start snapshots).flatten.filterMap l.item? =
      l.view (snapshots.getLastD (.initial file)) := by
  have hnothing := l.view_initial file
  have hcount : l.count .start = (l.view (.initial file)).length := by
    rw [l.count_start, hnothing, List.length_nil]
  simpa only [hnothing, List.nil_append] using l.view_append_items hcount hgrow

/-- The progress reports. -/
def progress : Listed Statistics where
  view := Snapshot.progress
  item? := Item.progress?
  count := Cursor.progress
  count_start := rfl
  view_initial _ := rfl
  count_advance _ _ := rfl
  new c s := by
    rw [filterMap_newItems]
    simp [Item.progress?]

/-- The warnings. -/
def warnings : Listed String where
  view := Snapshot.warnings
  item? := Item.warning?
  count := Cursor.warnings
  count_start := rfl
  view_initial _ := rfl
  count_advance _ _ := rfl
  new c s := by
    rw [filterMap_newItems]
    simp [Item.warning?]

/-- The lines for the errors. -/
def errorLines (m : Markers) : Listed String where
  view s := s.errors.map (errorLine m)
  item? := Item.errorLine? m
  count := Cursor.errors
  count_start := rfl
  view_initial _ := rfl
  count_advance _ _ := by simp [Cursor.advance]
  new c s := by
    rw [filterMap_newItems]
    simp [Item.errorLine?]

end Listed

/-- A phase is told when it is not the one before. -/
theorem phases_along (c : Cursor) (snapshots : List Snapshot) :
    (itemsAlong c snapshots).map (·.filterMap Item.phase?) =
      List.zipWith (fun before now => if now = before then [] else [now])
        (c.phase :: snapshots.map Snapshot.phase) (snapshots.map Snapshot.phase) := by
  induction snapshots generalizing c with
  | nil => rfl
  | cons s rest ih =>
    have hfirst : (newItems c s).filterMap Item.phase? =
        if s.phase = c.phase then [] else [s.phase] := by
      rw [filterMap_newItems]
      simp [Item.phase?]
    rw [itemsAlong, List.map_cons, hfirst, ih]
    rfl

/-- Along snapshots whose verdicts do not go down, only a verdict above the one before is told. -/
theorem verdicts_along {c : Cursor} {snapshots : List Snapshot}
    (hfirst : ∀ s ∈ snapshots, Verdict.rank c.verdict ≤ Verdict.rank s.verdict)
    (hgrow : snapshots.Pairwise fun s t => Verdict.rank s.verdict ≤ Verdict.rank t.verdict) :
    (c.verdict :: (itemsAlong c snapshots).flatten.filterMap Item.verdict?).Pairwise
      fun v w => Verdict.rank v < Verdict.rank w := by
  induction snapshots generalizing c with
  | nil => exact List.pairwise_singleton _ _
  | cons s rest ih =>
    obtain ⟨hnext, hrest⟩ := List.pairwise_cons.mp hgrow
    rw [itemsAlong, List.flatten_cons, List.filterMap_append, verdicts_newItems]
    by_cases hdue : verdictDue c s = true
    · have hshown := verdict_advance_of_due hdue
      have hlater := ih (hshown ▸ hnext) hrest
      rw [hshown] at hlater
      have habove : Verdict.rank c.verdict < Verdict.rank s.verdict := by
        have hle := hfirst s List.mem_cons_self
        have hne : Verdict.rank c.verdict ≠ Verdict.rank s.verdict := by
          intro hrank
          simp [verdictDue, Verdict.rank_inj.mp hrank] at hdue
        omega
      rw [if_pos hdue, List.singleton_append]
      refine List.pairwise_cons.mpr ⟨fun v hv => ?_, hlater⟩
      rcases List.mem_cons.mp hv with rfl | hv
      · exact habove
      · exact Nat.lt_trans habove (List.rel_of_pairwise_cons hlater hv)
    · have hkept := verdict_advance_of_not_due hdue
      have hlater := ih (hkept ▸ fun t ht => hfirst t (List.mem_cons_of_mem s ht)) hrest
      rw [hkept] at hlater
      rwa [if_neg hdue, List.nil_append]

/-! ### Requests -/

/-- What is asked of the display of a run that has been opened. -/
inductive ResultRequest where
  | update (s : Snapshot)
  | reveal

/-- The snapshot that is to be shown. -/
def ResultRequest.snapshot? : ResultRequest → Option Snapshot
  | .update s => some s
  | .reveal => none

/-- The console after it has done what is asked. -/
def answer (c : Console) : ResultRequest → Console
  | .update s => c.update s
  | .reveal => c.reveal

/-- The lines that it prints. -/
def answerLines (c : Console) : ResultRequest → List String
  | .update s => updateLines c.markers c.cursor s
  | .reveal => summaryLines c.markers c.last

/-- Requests with the lines that each of them prints. -/
def answers : Console → List ResultRequest → List (ResultRequest × List String)
  | _, [] => []
  | c, r :: rest => (r, c.answerLines r) :: (c.answer r).answers rest

/-- No request changes the markers. -/
theorem markers_answer (c : Console) (r : ResultRequest) : (c.answer r).markers = c.markers := by
  cases r <;> rfl

/-- A request is answered by printing its lines. -/
theorem writer_answer (c : Console) (r : ResultRequest) :
    (c.answer r).writer = c.writer.writeLines (c.answerLines r) := by
  cases r <;> rfl

/-- The writer gets the lines of all requests. -/
theorem writer_answers (requests : List ResultRequest) (c : Console) :
    (requests.foldl answer c).writer =
      c.writer.writeLines ((c.answers requests).flatMap Prod.snd) := by
  induction requests generalizing c with
  | nil => rfl
  | cons r rest ih =>
    rw [List.foldl_cons, ih, writer_answer, answers, List.flatMap_cons, Writer.writeLines_append]

/-- The updates print the lines of the items along the snapshots, whatever else is asked in between. -/
theorem updates_answers (requests : List ResultRequest) (c : Console) :
    ((c.answers requests).filter (·.1.snapshot?.isSome)).map Prod.snd =
      (itemsAlong c.cursor (requests.filterMap ResultRequest.snapshot?)).map
        (·.map (Item.line c.markers)) := by
  induction requests generalizing c with
  | nil => rfl
  | cons r rest ih =>
    have hrest := ih (c.answer r)
    rw [markers_answer] at hrest
    rw [answers]
    cases r with
    | update s =>
      have hcursor : (c.answer (.update s)).cursor = c.cursor.advance s := rfl
      rw [List.filter_cons_of_pos rfl, List.map_cons, hrest, hcursor, answerLines, updateLines_eq]
      rfl
    | reveal =>
      rw [List.filter_cons_of_neg (by simp [ResultRequest.snapshot?]), hrest]
      rfl

/-! ### A run and its display -/

section Run

open Output (arriving Input)

variable {file : Path} {limit : Nat} {zone : Zone}

/-- The lines for the errors of delivered snapshots only get more at the end. -/
theorem pairwise_errorLines (m : Markers) (inputs : List Input) :
    (Snapshot.initial file :: (Output.start file limit zone).delivered inputs).Pairwise
      fun s t => s.errors.map (errorLine m) <+: t.errors.map (errorLine m) := by
  have hmessages : ∀ s ∈ Snapshot.initial file :: (Output.start file limit zone).delivered inputs,
      ∃ messages, s.errors = ReportedError.ofMessages messages := by
    intro s hs
    rcases List.mem_cons.mp hs with rfl | hs
    · exact ⟨[], rfl⟩
    · obtain ⟨front, -, rfl⟩ := Output.mem_delivered hs
      exact ⟨_, Output.errors_after file limit zone front⟩
  refine (Output.pairwise_grows inputs (Output.start file limit zone)).imp_of_mem fun hs _ hgrows => ?_
  obtain ⟨messages, hmessages⟩ := hmessages _ hs
  have hgrow := hgrows.errors
  rw [hmessages] at hgrow ⊢
  exact ReportedError.errorLines_prefix hgrow m

/-- When what has been read to the end of a run's output is shown, snapshot after snapshot on a display
that has been opened for it, with whatever requests for the summary in between, the updates print for
the last snapshot just its reports, its warnings and the first lines of its errors, each once and in
order, also when an error gets more text later. A phase is printed when it is not the one before, from
not started on, and a verdict only above the one before. A writer that never fails gets the text of all
lines, behind the header. Every printed line is one line, and a snapshot that is shown again prints
nothing. -/
theorem updates_print_once {last : Moment} {chunks : List (Moment × Output.Chunk)} {o : Output}
    {snapshots : List Snapshot}
    (hread : System.parse last chunks (Output.Reader.start file limit zone) = (.ok o, snapshots))
    {requests : List ResultRequest}
    (hrequests : requests.filterMap ResultRequest.snapshot? = snapshots) (c : Console) :
    let printed := c.revealEmpty.answers requests
    let updates := (printed.filter (·.1.snapshot?.isSome)).map Prod.snd
    let items := itemsAlong .start snapshots
    let final := snapshots.getLastD (.initial file)
    let phases := snapshots.map Snapshot.phase
    (requests.foldl answer c.revealEmpty).writer =
        c.writer.writeLines (header c.markers :: printed.flatMap Prod.snd) ∧
      ((∀ taken, c.writer.broken taken = false) →
        (requests.foldl answer c.revealEmpty).writer.taken = c.writer.taken ++
          Text.encode (Writer.linesText (header c.markers :: printed.flatMap Prod.snd))) ∧
      updates = items.map (·.map (Item.line c.markers)) ∧
      items.flatten.filterMap Item.progress? = final.progress ∧
      items.flatten.filterMap Item.warning? = final.warnings ∧
      items.flatten.filterMap (Item.errorLine? c.markers) =
        final.errors.map (errorLine c.markers) ∧
      items.map (·.filterMap Item.phase?) =
        List.zipWith (fun before now => if now = before then [] else [now])
          (.notStarted :: phases) phases ∧
      (none :: items.flatten.filterMap Item.verdict?).Pairwise
        (fun v w => Verdict.rank v < Verdict.rank w) ∧
      (∀ ascii, c.markers = .select ascii →
        ∀ lines ∈ updates, ∀ line ∈ lines, '\n' ∉ line.toList) ∧
      ∀ (k : Console) (s : Snapshot), (k.update s).update s = k.update s := by
  intro printed updates items final phases
  obtain ⟨pieces, rfl⟩ := Output.exists_pieces_of_ok (congrArg Prod.fst hread)
  obtain ⟨inputs, hparse⟩ := Output.exists_inputs_parse file limit zone pieces last
  obtain rfl : (Output.start file limit zone).delivered inputs = snapshots :=
    congrArg Prod.snd (hparse.symm.trans hread)
  have hgrows := Output.pairwise_grows inputs (Output.start file limit zone)
  have hupdates : updates = items.map (·.map (Item.line c.markers)) := by
    have hanswers := updates_answers requests c.revealEmpty
    rwa [hrequests] at hanswers
  have hwriter : (requests.foldl answer c.revealEmpty).writer =
      c.writer.writeLines (header c.markers :: printed.flatMap Prod.snd) := by
    have hheader : c.revealEmpty.writer = c.writer.writeLines [header c.markers] := rfl
    rw [writer_answers, hheader, ← Writer.writeLines_append]
    rfl
  refine ⟨hwriter, fun hreliable => ?_, hupdates,
    Listed.progress.items_from_start (hgrows.imp fun h => h.progress),
    Listed.warnings.items_from_start (hgrows.imp fun h => h.warnings),
    (Listed.errorLines c.markers).items_from_start (pairwise_errorLines c.markers inputs),
    phases_along .start _, ?_, ?_, update_update⟩
  · rw [hwriter, Writer.writeLines_of_reliable hreliable]
  · have hverdicts := hgrows.imp fun h => h.verdict
    obtain ⟨hfirst, hrest⟩ := List.pairwise_cons.mp hverdicts
    exact verdicts_along (c := .start) hfirst hrest
  · intro ascii hmarkers lines hlines line hline
    rw [hupdates, hmarkers] at hlines
    obtain ⟨_, -, rfl⟩ := List.mem_map.mp hlines
    obtain ⟨i, -, rfl⟩ := List.mem_map.mp hline
    exact lineFeed_not_mem_line ascii i

/-- An error and its trace header as they arrive. -/
def tracedError : List (Moment × Text.Bytes) :=
  [(default, Text.encode
    "@!@!@STARTMSG 2110:1 @!@!@\nInvariant TypeOK is violated.\n@!@!@ENDMSG 2110 @!@!@\n"),
    (default, Text.encode
      "@!@!@STARTMSG 2121:1 @!@!@\nThe behavior up to this point is:\n@!@!@ENDMSG 2121 @!@!@\n")]

/-- The error is printed once, with its first line, though its text grows after that. The console's
writer gets the text of the header and of all lines. -/
theorem tracedError_printed_once :
    let console := Console.start .reliable .ascii true
    let parsed := System.parse default (arriving tracedError)
      (Output.Reader.start ⟨"/specs/Queue.tla"⟩)
    let requests := parsed.2.flatMap fun s => [.update s, .reveal]
    let printed := console.revealEmpty.answers requests
    requests.filterMap ResultRequest.snapshot? = parsed.2 ∧
      parsed.2.map (fun s => s.errors.map ReportedError.message) =
        [["Invariant TypeOK is violated."],
          ["Invariant TypeOK is violated.\nThe behavior up to this point is:"]] ∧
      (∀ taken, console.writer.broken taken = false) ∧
      (requests.foldl answer console.revealEmpty).writer.taken =
        Text.encode (Writer.linesText (header .ascii :: printed.flatMap Prod.snd)) ∧
      (itemsAlong .start parsed.2).flatten.filterMap (Item.errorLine? .ascii) =
        ["x [2110] Invariant TypeOK is violated."] := by
  intro console parsed requests printed
  have hrequests : requests.filterMap ResultRequest.snapshot? = parsed.2 := by
    simp only [requests]
    induction parsed.2 with
    | nil => rfl
    | cons s rest ih => exact congrArg (s :: ·) ih
  have hmessages : parsed.2.map (fun s => s.errors.map ReportedError.message) =
      [["Invariant TypeOK is violated."],
        ["Invariant TypeOK is violated.\nThe behavior up to this point is:"]] := by
    decide +kernel
  have hlast : (parsed.2.getLastD (.initial ⟨"/specs/Queue.tla"⟩)).errors.map (errorLine .ascii) =
      ["x [2110] Invariant TypeOK is violated."] := by
    decide +kernel
  obtain ⟨inputs, hparse⟩ :=
    Output.exists_inputs_parse ⟨"/specs/Queue.tla"⟩ Output.defaultTailLimit .utc tracedError default
  have hreliable : ∀ taken, console.writer.broken taken = false := fun _ => rfl
  obtain ⟨_, htext, _, _, _, herrors, _⟩ := updates_print_once
    (hparse.trans (congrArg (_, ·) (congrArg Prod.snd hparse).symm)) hrequests console
  exact ⟨hrequests, hmessages, hreliable, (htext hreliable).trans (List.nil_append _),
    herrors.trans hlast⟩

end Run

end ModelCheck.Console
