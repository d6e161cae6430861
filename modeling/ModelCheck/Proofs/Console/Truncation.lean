import Mathlib.Data.List.Induction
import ModelCheck.Console
import ModelCheck.Proofs.Console.Writer

/-!
# A console whose writer fails

What a console remembers and what it gives back come from what was asked of it, never from its writer.
So a writer that fails at some point changes nothing but the text, and of the text it only loses the
end.
-/

namespace ModelCheck.Console

open Text (Bytes encode)

/-! ### Operations -/

/-- What is asked of a console: to show results, a status item or a message. -/
inductive Operation where
  | revealEmpty
  | update (s : Snapshot)
  | reveal
  | showStatus (item : StatusItem)
  | hideStatus
  | info (text : String)
  | warn (text : String)
  | error (text : String)
  | offer (text action : String)

/-- The console after an operation. -/
def perform (c : Console) : Operation → Console
  | .revealEmpty => c.revealEmpty
  | .update s => c.update s
  | .reveal => c.reveal
  | .showStatus item => c.showStatus item
  | .hideStatus => c.hideStatus
  | .info text => c.info text
  | .warn text => c.warn text
  | .error text => c.error text
  | .offer text action => c.offer text action

/-- The console after operations, one after the other. -/
def performAll (c : Console) (ops : List Operation) : Console := ops.foldl perform c

/-- What an operation gives back. Only an offer does: whether it is taken. -/
def reply? (c : Console) : Operation → Option Bool
  | .offer _ _ => some c.acceptsOffers
  | _ => none

/-! ### The writer apart -/

/-- The lines that an operation prints. -/
def printed (c : Console) : Operation → List String
  | .revealEmpty => [header c.markers]
  | .update s => updateLines c.markers c.cursor s
  | .reveal => summaryLines c.markers c.last
  | .showStatus item => if c.shown = some item then [] else [statusLine c.markers item]
  | .hideStatus => []
  | .info text => ["info: " ++ text]
  | .warn text => ["warning: " ++ text]
  | .error text => ["error: " ++ text]
  | .offer text action =>
    ("warning: " ++ text ++ " [" ++ action ++ "]")
      :: if c.acceptsOffers then ["  -> " ++ action] else []

/-- The lines that operations print, one after the other. -/
def printedAll : Console → List Operation → List String
  | _, [] => []
  | c, op :: rest => c.printed op ++ (c.perform op).printedAll rest

/-- A console with another writer. -/
def withWriter (w : Writer) (c : Console) : Console := { c with writer := w }

/-- Showing a status item prints a line unless the item is shown already. -/
theorem showStatus_eq (item : StatusItem) (c : Console) :
    c.showStatus item =
      { c with shown := some item }.print (c.printed (.showStatus item)) := by
  by_cases hshown : c.shown = some item
  · simp [showStatus, printed, hshown, print, Writer.writeLines]
  · simp [showStatus, printed, hshown]

/-- An operation does the same with every writer, and gives it the same lines. -/
theorem perform_withWriter (c : Console) (w : Writer) (op : Operation) :
    (c.withWriter w).perform op = (c.perform op).withWriter (w.writeLines (c.printed op)) := by
  cases op with
  | showStatus item =>
    rw [perform, perform, showStatus_eq, showStatus_eq]
    rfl
  | _ => rfl

/-- What an operation does to the writer is to print its lines. -/
theorem writer_perform (c : Console) (op : Operation) :
    (c.perform op).writer = c.writer.writeLines (c.printed op) :=
  congrArg Console.writer (perform_withWriter c c.writer op)

/-- A writer that has failed is left as it is. -/
theorem writer_perform_of_broken (c : Console) (op : Operation)
    (h : c.writer.broken c.writer.taken = true) : (c.perform op).writer = c.writer := by
  rw [writer_perform, Writer.writeLines_of_broken h]

/-- A writer that works gets all lines of an operation. -/
theorem taken_perform {c : Console} (h : ∀ taken, c.writer.broken taken = false) (op : Operation) :
    (c.perform op).writer.taken =
      c.writer.taken ++ encode (Writer.linesText (c.printed op)) := by
  rw [writer_perform, Writer.writeLines_of_reliable h]

/-- Operations do the same with every writer, and give it the same lines one after the other. -/
theorem performAll_withWriter (ops : List Operation) (c : Console) (w : Writer) :
    (c.withWriter w).performAll ops =
      (c.performAll ops).withWriter (w.writeLines (c.printedAll ops)) := by
  induction ops generalizing c w with
  | nil => rfl
  | cons op rest ih =>
    have hrest := ih (c.perform op) (w.writeLines (c.printed op))
    rw [← Writer.writeLines_append] at hrest
    rw [performAll, List.foldl_cons, perform_withWriter]
    exact hrest

/-! ### What is remembered -/

namespace Operation

/-- What an operation makes of the status item that is shown. -/
def status? : Operation → Option (Option StatusItem)
  | .showStatus item => some (some item)
  | .hideStatus => some none
  | _ => none

/-- What an operation makes of the last snapshot of the run. -/
def snapshot? : Operation → Option (Option Snapshot)
  | .update s => some (some s)
  | .revealEmpty => some none
  | _ => none

end Operation

/-- The status item that was shown last, unless it has been hidden since. -/
def shownBy (ops : List Operation) : Option StatusItem :=
  (ops.filterMap Operation.status?).getLast?.getD none

/-- The snapshot of the last update since results were last revealed empty. -/
def lastBy (ops : List Operation) : Option Snapshot :=
  (ops.filterMap Operation.snapshot?).getLast?.getD none

section Remembered

variable (c : Console) (op : Operation)

/-- The status item that is shown changes just with the operations that are about it. -/
theorem shown_perform : (c.perform op).shown = op.status?.getD c.shown := by
  cases op with
  | showStatus item =>
    rw [perform, showStatus_eq]
    rfl
  | _ => rfl

/-- The last snapshot changes just with updates, and when results are revealed empty. -/
theorem last_perform : (c.perform op).last = op.snapshot?.getD c.last := by
  cases op with
  | showStatus item =>
    rw [perform, showStatus_eq]
    rfl
  | _ => rfl

/-- No operation changes the markers, or whether offers are taken. -/
theorem settings_perform :
    (c.perform op).markers = c.markers ∧ (c.perform op).acceptsOffers = c.acceptsOffers := by
  cases op with
  | showStatus item =>
    rw [perform, showStatus_eq]
    exact ⟨rfl, rfl⟩
  | _ => exact ⟨rfl, rfl⟩

end Remembered

section Run

variable (w : Writer) (m : Markers) (acceptsOffers : Bool) (ops : List Operation)

/-- The last operation is performed on what the others have left. -/
theorem performAll_concat (c : Console) (op : Operation) :
    c.performAll (ops ++ [op]) = (c.performAll ops).perform op := by
  rw [performAll, List.foldl_append, List.foldl_cons, List.foldl_nil, performAll]

/-- What is remembered is what the last operation that says anything about it has made of it. -/
theorem remembered :
    let c := (start w m acceptsOffers).performAll ops
    c.shown = shownBy ops ∧ c.last = lastBy ops ∧ c.markers = m ∧ c.acceptsOffers = acceptsOffers := by
  induction ops using List.reverseRecOn with
  | nil => exact ⟨rfl, rfl, rfl, rfl⟩
  | append_singleton front op ih =>
    obtain ⟨hshown, hlast, hmarkers, haccepts⟩ := ih
    obtain ⟨hmarkers', haccepts'⟩ := settings_perform ((start w m acceptsOffers).performAll front) op
    rw [performAll_concat]
    refine ⟨?_, ?_, hmarkers'.trans hmarkers, haccepts'.trans haccepts⟩
    · rw [shown_perform, hshown, shownBy, shownBy, List.filterMap_append]
      cases hop : op.status? <;> simp [hop]
    · rw [last_perform, hlast, lastBy, lastBy, List.filterMap_append]
      cases hop : op.snapshot? <;> simp [hop]

/-- Consoles with different writers differ in them only, and both are given the same lines. -/
theorem performAll_start (w' : Writer) :
    (start w m acceptsOffers).performAll ops =
      ((start w' m acceptsOffers).performAll ops).withWriter
        (w.writeLines ((start w' m acceptsOffers).printedAll ops)) :=
  performAll_withWriter ops (start w' m acceptsOffers) w

/-- The writer of a console gets the lines of all operations. -/
theorem writer_performAll :
    ((start w m acceptsOffers).performAll ops).writer =
      w.writeLines ((start w m acceptsOffers).printedAll ops) :=
  congrArg Console.writer (performAll_start w m acceptsOffers ops w)

end Run

/-- A console whose writer fails for good at some point remembers and gives back what it does with a
writer that works, whatever is asked of it. What it writes is what the working writer gets up to a point,
which may lie within a line, and all of it unless the writer has failed. With a writer that works, a
status item is printed just if it is not the one that is shown, and revealing the results prints the
summary of the last update since they were last revealed empty and does nothing else. -/
theorem broken_writer_truncates (broken : Bytes → Bool) (more : Bytes → Bytes → Nat) (m : Markers)
    (acceptsOffers : Bool) (ops : List Operation) :
    let c := (start ⟨[], broken, more⟩ m acceptsOffers).performAll ops
    let k := (start .reliable m acceptsOffers).performAll ops
    (c.cursor = k.cursor ∧ c.last = k.last ∧ c.shown = k.shown) ∧
      (∀ op, c.reply? op = k.reply? op) ∧
      (∀ text action, c.reply? (.offer text action) = some acceptsOffers) ∧
      (∃ lost, k.writer.taken = c.writer.taken ++ lost ∧
        (lost = [] ∨ broken c.writer.taken = true)) ∧
      (broken c.writer.taken = true → ∀ op, (c.perform op).writer = c.writer) ∧
      (k.shown = shownBy ops ∧ ∀ item, (k.showStatus item).writer.taken = k.writer.taken ++
        encode (if shownBy ops = some item then "" else statusLine m item ++ "\n")) ∧
      (k.last = lastBy ops ∧ k.reveal.writer.taken =
        k.writer.taken ++ encode (Writer.linesText (summaryLines m (lastBy ops)))) ∧
      k.reveal.withWriter k.writer = k := by
  intro c k
  let w : Writer := ⟨[], broken, more⟩
  let lines := (start .reliable m acceptsOffers).printedAll ops
  have hc : c = k.withWriter (w.writeLines lines) := performAll_start w m acceptsOffers ops .reliable
  have hcwriter : c.writer = w.writeLines lines := congrArg Console.writer hc
  obtain ⟨lost, htook⟩ := Writer.exists_took_writeLines lines w
  rw [← hcwriter] at htook
  have hrefuses : c.writer.broken = broken := htook.broken_eq
  have hkwriter : k.writer = { Writer.reliable with taken := [] ++ encode (Writer.linesText lines) } := by
    rw [writer_performAll, Writer.writeLines_of_reliable fun _ => rfl]
    rfl
  have hworks : ∀ taken, k.writer.broken taken = false := fun _ => by rw [hkwriter]; rfl
  obtain ⟨hshown, hlast, hmarkers, haccepts⟩ := remembered .reliable m acceptsOffers ops
  refine ⟨?_, fun op => ?_, fun text action => ?_, ⟨lost, ?_, ?_⟩,
    fun hbroken op => ?_, ⟨hshown, fun item => ?_⟩, ⟨hlast, ?_⟩, rfl⟩
  · rw [hc]
    exact ⟨rfl, rfl, rfl⟩
  · rw [hc]
    cases op <;> rfl
  · rw [hc]
    exact congrArg some haccepts
  · rw [hkwriter]
    exact htook.taken_append
  · rw [← hrefuses]
    exact htook.refused
  · exact writer_perform_of_broken c op (by rw [hrefuses, hbroken])
  · have hlines : Writer.linesText (k.printed (.showStatus item)) =
        if shownBy ops = some item then "" else statusLine m item ++ "\n" := by
      rw [printed, hshown, hmarkers]
      split <;> simp [Writer.linesText]
    have htaken := taken_perform hworks (.showStatus item)
    rwa [hlines] at htaken
  · have hlines : k.printed .reveal = summaryLines m (lastBy ops) := by
      rw [printed, hlast, hmarkers]
    have htaken := taken_perform hworks .reveal
    rwa [hlines] at htaken

/-- With a writer that takes single bytes and fails within the second line of an offer, the rest of that
line is lost, and everything behind it. -/
theorem secondLine_lost :
    let broken : Bytes → Bool := fun taken => 36 ≤ taken.length
    let ops : List Operation := [.offer "TLC is running" "Show"]
    let c := (start ⟨[], broken, fun _ _ => 0⟩ .ascii true).performAll ops
    let k := (start .reliable .ascii true).performAll ops
    c.writer.taken = encode "warning: TLC is running [Show]\n  -> " ∧
      k.writer.taken = encode "warning: TLC is running [Show]\n  -> Show\n" ∧
      broken c.writer.taken = true ∧ (c.perform .reveal).writer = c.writer := by
  intro broken ops c k
  obtain ⟨-, -, -, -, hstays, -⟩ :=
    broken_writer_truncates broken (fun _ _ => 0) .ascii true ops
  have hbroken : broken c.writer.taken = true := by decide +kernel
  exact ⟨by decide +kernel, by decide +kernel, hbroken, hstays hbroken .reveal⟩

end ModelCheck.Console
