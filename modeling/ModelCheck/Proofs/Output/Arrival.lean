import ModelCheck.Proofs.Output.Clock
import ModelCheck.Proofs.Output.Lines
import ModelCheck.Proofs.System.Stream

/-!
# Output however it arrives

What is read from a stream does not depend on where the stream is cut into pieces, nor on how its
lines end: it is what the lines come to when they are taken one by one.
-/

namespace ModelCheck.Output

open Text (Bytes decode lineFeed carriageReturn)

/-- A line of bytes as an input. -/
def lineInput (now : Moment) (line : Bytes) : Input := .line now (decode line)

/-- What the lines of output come to, taken one by one and flushed at the end. -/
def lineByLine (file : Path) (limit : Nat) (zone : Zone) (now : Moment) (content : Bytes) :
    Except String Output × List Snapshot :=
  let inputs := (cutLines content).map (lineInput now) ++ [.flush now]
  (.ok ((start file limit zone).after inputs), (start file limit zone).delivered inputs)

/-- What is seen of a reading, clock readings aside: its diagnostics, or the cause of its failure, and
the snapshots that were delivered. -/
def seen (outcome : Except String Output × List Snapshot) :
    Except String Collection × List Snapshot :=
  (outcome.1.map diagnostics, outcome.2.map Snapshot.timeless)

/-- Pieces of bytes as they arrive, each at its moment. -/
def arriving (pieces : List (Moment × Bytes)) : List (Moment × Chunk) :=
  pieces.map fun piece => (piece.1, .bytes piece.2)

/-- The bytes of pieces, together. -/
def joined (pieces : List (Moment × Bytes)) : Bytes := pieces.flatMap Prod.snd

/-- The frames of lines do not depend on when they are read. -/
theorem frames_lineInput (now : Moment) (lines : List Bytes) :
    frames (lines.map (lineInput now)) = (lines.map lineFrame).map some := by
  rw [frames, List.map_map, List.map_map]
  rfl

/-- Runs over the same frames are seen to come to the same. -/
theorem seen_congr {inputs inputs' : List Input} (o : Output)
    (h : frames inputs = frames inputs') :
    seen (.ok (o.after inputs), o.delivered inputs) =
      seen (.ok (o.after inputs'), o.delivered inputs') := by
  have hafter : (o.after inputs).diagnostics = (o.after inputs').diagnostics := by
    rw [← diagnostics_timeless, after_congr h rfl, diagnostics_timeless]
  rw [seen, seen, delivered_congr h rfl]
  exact congrArg (fun collection => (Except.ok collection, _)) hafter

/-! ### The reader as a run over lines -/

namespace Reader

/-- Lines are taken one after the other, and what each of them delivers is delivered in that order. -/
theorem takeLines_eq (now : Moment) (lines : List Bytes) (r : Reader) :
    r.takeLines now lines =
      (⟨r.output.after (lines.map (lineInput now)), r.pending⟩,
        r.output.delivered (lines.map (lineInput now))) := by
  induction lines generalizing r with
  | nil => rfl
  | cons first rest ih =>
    simp only [takeLines, line, ih, List.map_cons, delivered_cons]
    rfl

/-- A piece of output ends some lines, of which the first goes on with what is pending. What is behind
the last of them is pending then. -/
theorem feed_eq (now : Moment) (content : Bytes) (r : Reader) :
    r.feed now content =
      (⟨r.output.after ((divide r.pending.reverse content).1.map (lineInput now)),
          (divide r.pending.reverse content).2⟩,
        r.output.delivered ((divide r.pending.reverse content).1.map (lineInput now))) := by
  simp only [feed, takeLines_eq]

/-- At the end what is pending is a line too, unless there is nothing. -/
theorem finish_eq (now : Moment) (r : Reader) :
    r.finish now =
      (r.output.after ((attach r.pending []).map (lineInput now) ++ [.flush now]),
        r.output.delivered ((attach r.pending []).map (lineInput now) ++ [.flush now])) := by
  obtain ⟨output, pending⟩ := r
  rw [delivered_append, delivered_singleton, after_concat]
  cases pending with
  | nil => rfl
  | cons b rest =>
    have hlast : attach (b :: rest) [] = [b :: rest] := by
      rw [attach, if_neg (List.cons_ne_nil b rest)]
    rw [hlast, List.map_singleton, delivered_singleton]
    rfl

/-- The lines that end in pieces, each at the moment of the piece in which it ends. `current` holds,
reversed, the bytes of the line at hand. -/
def ended : Bytes → List (Moment × Bytes) → List Input
  | _, [] => []
  | current, (now, content) :: rest =>
    (divide current content).1.map (lineInput now) ++ ended (divide current content).2.reverse rest

/-- However output comes in pieces, the lines that end in them are those of the output as a whole. -/
theorem frames_ended (current : Bytes) (pieces : List (Moment × Bytes)) :
    frames (ended current pieces) = ((divide current (joined pieces)).1.map lineFrame).map some := by
  induction pieces generalizing current with
  | nil => rfl
  | cons piece rest ih =>
    rw [joined, List.flatMap_cons, divide_append, ended, frames_append, ih, frames_lineInput,
      List.map_append, List.map_append]
    rfl

/-- The parser takes pieces as the lines that end in them; what the last line leaves is pending. -/
theorem parse_arriving (last : Moment) (pieces : List (Moment × Bytes))
    (more : List (Moment × Chunk)) (r : Reader) :
    let r' : Reader := ⟨r.output.after (ended r.pending.reverse pieces),
      (divide r.pending.reverse (joined pieces)).2⟩
    System.parse last (arriving pieces ++ more) r =
      ((System.parse last more r').1,
        r.output.delivered (ended r.pending.reverse pieces) ++ (System.parse last more r').2) := by
  induction pieces generalizing r with
  | nil =>
    obtain ⟨output, pending⟩ := r
    simp only [joined, List.flatMap_nil, divide, List.reverse_reverse]
    rfl
  | cons piece rest ih =>
    obtain ⟨now, content⟩ := piece
    -- the reader behind the first piece, which is where the rest is taken
    have hnext := ih ⟨r.output.after ((divide r.pending.reverse content).1.map (lineInput now)),
      (divide r.pending.reverse content).2⟩
    rw [arriving, List.map_cons, List.cons_append, System.parse_bytes, feed_eq, ← arriving]
    simp only [hnext, ended, after_append, delivered_append, List.append_assoc, joined,
      List.flatMap_cons, divide_append]

end Reader

open Reader (ended divide parse_arriving finish_eq frames_ended)

/-- Output that ends without a failure is read as a run: over the lines that end in its pieces, over
what is left as one more line, and up to a flush. -/
theorem exists_inputs_parse (file : Path) (limit : Nat) (zone : Zone) (pieces : List (Moment × Bytes))
    (last : Moment) :
    ∃ inputs, System.parse last (arriving pieces) (Reader.start file limit zone) =
      (.ok ((start file limit zone).after inputs), (start file limit zone).delivered inputs) := by
  have hparse := parse_arriving last pieces [] (Reader.start file limit zone)
  rw [List.append_nil] at hparse
  rw [hparse]
  simp only [System.parse, finish_eq, ← after_append, ← delivered_append]
  exact ⟨_, rfl⟩

/-- Output that is read to its end has arrived as pieces of bytes. -/
theorem exists_pieces_of_ok {last : Moment} {chunks : List (Moment × Chunk)} {r : Reader}
    {o : Output} (h : (System.parse last chunks r).1 = .ok o) :
    ∃ pieces, chunks = arriving pieces := by
  induction chunks generalizing r with
  | nil => exact ⟨[], rfl⟩
  | cons first rest ih =>
    obtain ⟨now, chunk⟩ := first
    cases chunk with
    | failure cause => cases h
    | bytes content =>
      rw [System.parse_bytes] at h
      obtain ⟨pieces, rfl⟩ := ih h
      exact ⟨(now, content) :: pieces, rfl⟩

/-! ### What is seen -/

/-- Output whose lines are the same frames is seen to come to the same line by line. -/
theorem seen_lineByLine (file : Path) (limit : Nat) (zone : Zone) (now : Moment) {content content' : Bytes}
    (h : (cutLines content').map lineFrame = (cutLines content).map lineFrame) :
    seen (lineByLine file limit zone now content') = seen (lineByLine file limit zone now content) := by
  refine seen_congr (start file limit zone) ?_
  rw [frames_append, frames_append, frames_lineInput, frames_lineInput, h]

section Seen

variable (file : Path) (limit : Nat) (zone : Zone) (pieces : List (Moment × Bytes)) (last now : Moment)

/-- Pieces up to the end of a stream are seen to come to what their lines come to. -/
theorem seen_parse : seen (System.parse last (arriving pieces) (Reader.start file limit zone)) =
    seen (lineByLine file limit zone now (joined pieces)) := by
  have hparse := parse_arriving last pieces [] (Reader.start file limit zone)
  rw [List.append_nil] at hparse
  rw [hparse]
  simp only [System.parse, finish_eq, ← after_append, ← delivered_append]
  refine seen_congr (start file limit zone) ?_
  -- the lines that end in the pieces, and what the last one leaves, are all the lines
  have hlines := congrArg (List.map lineFrame) (cutLines_eq (joined pieces))
  rw [List.map_append] at hlines
  rw [frames_append, frames_append, frames_append, frames_lineInput, frames_lineInput, hlines,
    List.map_append, ← List.append_assoc]
  exact congrArg (· ++ _ ++ _) (frames_ended [] pieces)

/-- Pieces before a failure are seen to come to what their complete lines deliver, and to the cause of
the failure. -/
theorem seen_parse_failure (failed : Moment) (cause : String) (behind : List (Moment × Chunk)) :
    seen (System.parse last (arriving pieces ++ (failed, .failure cause) :: behind)
        (Reader.start file limit zone)) =
      (.error cause, ((start file limit zone).delivered
        ((completeLines (joined pieces)).map (lineInput now))).map Snapshot.timeless) := by
  have hframes : frames (ended [] pieces) =
      frames ((completeLines (joined pieces)).map (lineInput now)) := by
    rw [frames_lineInput, completeLines_eq]
    exact frames_ended [] pieces
  rw [parse_arriving, ← delivered_congr hframes rfl]
  simp only [System.parse, seen, List.append_nil]
  rfl

/-- Pieces that arrive at one moment. -/
theorem arriving_at : (pieces.map fun piece => Chunk.bytes piece.2).map (fun chunk => (now, chunk)) =
    arriving (pieces.map fun piece => (now, piece.2)) := by
  rw [arriving, List.map_map, List.map_map]
  rfl

/-- The moments at which pieces arrive are not part of what they are joined to. -/
theorem joined_at : joined (pieces.map fun piece => (now, piece.2)) = joined pieces := by
  rw [joined, joined, List.flatMap_map]

end Seen

/-- Whatever pieces output arrives in and at whatever moments, what is read is what its lines come to
when they are taken one by one and flushed at the end, clock readings aside. It stays the same with a
carriage return before any line feed, and without the line feed of a last line that has another byte.
If the stream fails after the pieces, what their complete lines deliver has been delivered, nothing
more, and the cause is what comes out. -/
theorem read_by_lines (file : Path) (limit : Nat) (zone : Zone) (pieces : List (Moment × Bytes))
    (last now : Moment) :
    let reader := Reader.start file limit zone
    let content := joined pieces
    let whole := seen (lineByLine file limit zone now content)
    let broken := fun cause => (Except.error cause, ((start file limit zone).delivered
      ((completeLines content).map (lineInput now))).map Snapshot.timeless)
    seen (System.parse last (arriving pieces) reader) = whole ∧
      seen (reader.readAll now (pieces.map fun piece => .bytes piece.2)) = whole ∧
      (∀ pieces' last', OtherEndings content (joined pieces') →
        seen (System.parse last' (arriving pieces') reader) = whole) ∧
      (∀ failed cause behind,
        seen (System.parse last (arriving pieces ++ (failed, .failure cause) :: behind) reader) =
          broken cause) ∧
      ∀ cause behind,
        seen (reader.readAll now
          (pieces.map (fun piece => .bytes piece.2) ++ .failure cause :: behind)) =
            broken cause := by
  intro reader content whole broken
  refine ⟨seen_parse file limit zone pieces last now, ?_, fun pieces' last' hendings => ?_,
    seen_parse_failure file limit zone pieces last now, fun cause behind => ?_⟩
  · rw [← System.parse_at, arriving_at, seen_parse file limit zone _ now now, joined_at]
  · rw [seen_parse file limit zone pieces' last' now]
    exact seen_lineByLine file limit zone now hendings.cutLines
  · rw [← System.parse_at, List.map_append, arriving_at, List.map_cons,
      seen_parse_failure file limit zone _ now now, joined_at]

/-- A euro sign and a letter, each on a line, in one piece. -/
def onePiece : List (Moment × Bytes) :=
  [(default, [0xE2, 0x82, 0xAC, lineFeed, 0x61, lineFeed])]

/-- The same with a carriage return, cut inside the euro sign and between the carriage return and its
line feed. -/
def cutInside : List (Moment × Bytes) :=
  [(default, [0xE2, 0x82]), (default, [0xAC, carriageReturn]),
    (default, [lineFeed, 0x61, lineFeed])]

/-- Neither the cuts nor the carriage return are seen. -/
theorem cutInside_unseen :
    OtherEndings (joined onePiece) (joined cutInside) ∧
      seen (System.parse default (arriving cutInside) (Reader.start ⟨"/specs/Queue.tla"⟩)) =
        seen (System.parse default (arriving onePiece) (Reader.start ⟨"/specs/Queue.tla"⟩)) := by
  have hendings : OtherEndings (joined onePiece) (joined cutInside) :=
    .returns (.one [0xE2, 0x82, 0xAC] [0x61, lineFeed])
  obtain ⟨hone, _, hother, _⟩ :=
    read_by_lines ⟨"/specs/Queue.tla"⟩ defaultTailLimit .utc onePiece default default
  exact ⟨hendings, (hother cutInside default hendings).trans hone.symm⟩

end ModelCheck.Output
