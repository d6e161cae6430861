import ModelCheck.Diagnostic.Sink
import ModelCheck.Proofs.Diagnostic.Collection
import ModelCheck.Proofs.Diagnostic.Records
import ModelCheck.Proofs.FileTree
import ModelCheck.Proofs.Output.Lines

/-!
# Written diagnostics are read back

A collection is written as one line per file. The lines are found again where they were put, also
behind others, because no line has a line feed inside, and each is read as its file. So a target that
takes collections one after the other holds the records of all of them, in order.
-/

namespace ModelCheck

namespace Jsonl

open Output (cutLines Complete)
open Text (Bytes lineFeed)

/-- The bytes of a collection. -/
def payload (c : Collection) : Bytes := Text.encode (encode c)

/-- The records in the lines of bytes. A line that is none has no record. -/
def records (content : Bytes) : List (Option (Path × List Diagnostic)) :=
  (cutLines content).map recordOf?

/-! ### Lines -/

/-- The bytes of a line are those of its text, with a line feed behind them. -/
theorem lineBytes_eq (entry : Path × List Diagnostic) :
    lineBytes entry = Text.encode (String.ofList (body entry)) ++ [lineFeed] := by
  rw [lineBytes, line_eq, Text.encode_ofList_append, Text.encode_lineFeed]

/-- A line feed ends the line of a file, and there is no other one. -/
theorem cutLines_lineBytes (entry : Path × List Diagnostic) :
    cutLines (lineBytes entry) = [lineBytes entry] := by
  have hbody : '\n' ∉ body entry := by
    intro hfeed
    exact absurd (Clean.body entry '\n' hfeed) (by decide)
  rw [lineBytes_eq]
  exact Output.cutLines_line (Text.lineFeed_not_mem_encode hbody)

/-- A line ends with its line feed. -/
theorem complete_lineBytes (entry : Path × List Diagnostic) : Complete (lineBytes entry) := by
  rw [lineBytes_eq]
  exact .inr List.getLast?_concat

/-- What is written for a collection are the lines of its files, in the order of the files. -/
theorem payload_eq (c : Collection) : payload c = c.files.flatMap lineBytes := by
  rw [payload, encode, Text.encode_ofList, List.flatMap_assoc]
  congr 1
  funext entry
  rw [lineBytes, Text.encode_ofList]

/-- The lines of a collection are those of its files. -/
theorem cutLines_payload (c : Collection) : cutLines (payload c) = c.files.map lineBytes := by
  rw [payload_eq]
  induction c.files with
  | nil => rfl
  | cons entry rest ih =>
    rw [List.flatMap_cons, Output.cutLines_append (complete_lineBytes entry), cutLines_lineBytes, ih]
    rfl

/-- What is written for a collection ends with a line feed, or is nothing at all. -/
theorem complete_payload (c : Collection) : Complete (payload c) := by
  rw [payload_eq]
  induction c.files with
  | nil => exact .inl rfl
  | cons entry rest ih => exact (complete_lineBytes entry).append ih

/-! ### Records -/

/-- Content behind complete lines adds its records, since no line goes across. -/
theorem records_append {content : Bytes} (h : Complete content) (more : Bytes) :
    records (content ++ more) = records content ++ records more := by
  rw [records, records, records, Output.cutLines_append h, List.map_append]

/-- A collection is read back file by file. -/
theorem records_payload (c : Collection) : records (payload c) = c.files.map some := by
  rw [records, cutLines_payload, List.map_map]
  exact List.map_congr_left fun entry _ => recordOf?_lineBytes entry

/-- Collections behind complete lines add their records to those of the lines. -/
theorem records_append_payloads {content : Bytes} (h : Complete content) (cs : List Collection) :
    records (content ++ cs.flatMap payload) = records content ++ cs.flatMap (·.files.map some) := by
  have hpayloads : records (cs.flatMap payload) = cs.flatMap (·.files.map some) := by
    induction cs with
    | nil => rfl
    | cons c rest ih =>
      rw [List.flatMap_cons, records_append (complete_payload c), records_payload, ih]
      rfl
  rw [records_append h, hpayloads]

/-- Collections that are written alike have the same records, so they are the same. -/
theorem encode_inj {c c' : Collection} (h : encode c = encode c') : c = c' := by
  have hrecords : c.files.map some = c'.files.map some := by
    rw [← records_payload, ← records_payload, payload, payload, h]
  obtain ⟨files⟩ := c
  obtain ⟨files'⟩ := c'
  exact congrArg Collection.mk (List.map_injective_iff.mpr (fun _ _ => Option.some.inj) hrecords)

end Jsonl

/-! ### Targets -/

namespace Sink

open Jsonl (payload records)

variable {target : String} {s s' : Storage}

/-- What a target holds. -/
def held (target : String) (s : Storage) : Text.Bytes :=
  if target = Config.standardOutput then s.output else s.files.content s.here ⟨target⟩

/-- Whether a target is a device, which holds nothing of what is written to it. -/
def IsDevice (target : String) (s : Storage) : Prop :=
  target ≠ Config.standardOutput ∧ s.files.get s.here ⟨target⟩ = .ok .void

instance (target : String) (s : Storage) : Decidable (IsDevice target s) :=
  inferInstanceAs (Decidable (_ ∧ _))

/-- A collection comes behind what the target holds. -/
theorem held_apply {c : Collection} (h : apply target c s = .ok s') (hdevice : ¬IsDevice target s) :
    held target s' = held target s ++ payload c ∧ ¬IsDevice target s' := by
  unfold apply at h
  by_cases hstandard : target = Config.standardOutput
  · rw [if_pos hstandard] at h
    obtain rfl := Except.ok.inj h
    refine ⟨?_, fun hnot => hnot.1 hstandard⟩
    rw [held, held, if_pos hstandard, if_pos hstandard]
    rfl
  · have hvoid : s.files.get s.here ⟨target⟩ ≠ .ok .void := fun hvoid => hdevice ⟨hstandard, hvoid⟩
    rw [if_neg hstandard] at h
    split at h
    · next files happend =>
      obtain rfl := Except.ok.inj h
      obtain ⟨hcontent, hvoid'⟩ := FileTree.content_append happend hvoid
      refine ⟨?_, fun hnot => hvoid' hnot.2⟩
      rw [held, held, if_neg hstandard, if_neg hstandard]
      exact hcontent
    · cases h

/-- Collections that are applied one after the other come in that order. -/
theorem held_applyAll {cs : List Collection}
    (h : cs.foldlM (fun s c => apply target c s) s = .ok s') (hdevice : ¬IsDevice target s) :
    held target s' = held target s ++ cs.flatMap payload := by
  induction cs generalizing s with
  | nil =>
    obtain rfl := Except.ok.inj h
    rw [List.flatMap_nil, List.append_nil]
  | cons c rest ih =>
    rw [List.foldlM_cons] at h
    cases hfirst : apply target c s with
    | error failure =>
      rw [hfirst] at h
      cases h
    | ok next =>
      rw [hfirst] at h
      obtain ⟨hheld, hdevice'⟩ := held_apply hfirst hdevice
      rw [ih h hdevice', hheld, List.flatMap_cons, List.append_assoc]

end Sink

namespace Jsonl

open Output (cutLines Complete)
open Text (Bytes)

/-- Collections of diagnostics that are written one after the other behind complete lines add, line by
line, just the records of their files, in order, and so they do when they are applied to a target that
holds the lines. A collection has one line for each of its files, in path order. The line has one line
feed, at its end, and no other control character, and is read as the file in the spelling that it has,
with just its diagnostics in order. So nothing is lost: other collections are written otherwise. -/
theorem records_read_back {content : Bytes} (hcontent : Complete content) (cs : List Collection) :
    records (content ++ cs.flatMap payload) = records content ++ cs.flatMap (·.files.map some) ∧
      (∀ (target : String) (s s' : Storage), Sink.held target s = content →
        ¬Sink.IsDevice target s → cs.foldlM (fun s c => Sink.apply target c s) s = .ok s' →
          records (Sink.held target s') = records content ++ cs.flatMap (·.files.map some)) ∧
      ∀ c : Collection,
        cutLines (payload c) = c.files.map lineBytes ∧
          (c.Built → (Collection.keys c.files).Pairwise fun p q => p.compare q = .lt) ∧
          (∀ entry ∈ c.files, line entry = body entry ++ ['\n'] ∧
            (∀ ch ∈ body entry, 0x20 ≤ ch.toNat) ∧ recordOf? (lineBytes entry) = some entry) ∧
          ∀ c' : Collection, encode c' = encode c → c' = c := by
  refine ⟨records_append_payloads hcontent cs, fun target s s' hheld hdevice happly => ?_,
    fun c => ⟨cutLines_payload c, fun hbuilt => ?_, fun entry _ => ?_, fun c' => encode_inj⟩⟩
  · rw [Sink.held_applyAll happly hdevice, hheld]
    exact records_append_payloads hcontent cs
  · exact List.pairwise_map.mpr hbuilt.ordered
  · exact ⟨line_eq entry, Clean.body entry, recordOf?_lineBytes entry⟩

/-- A diagnostic whose text needs all kinds of escapes. -/
def escapedDiagnostic : Diagnostic :=
  ⟨⟨⟨3, 8⟩, ⟨3, 13⟩⟩, .error, "first line\n\tand \"second\"\r\x00\x1f ∀ x ∈ S 😀"⟩

/-- A file with it, whose path needs escapes too. -/
def escapedEntry : Path × List Diagnostic := (⟨"/specs/a \"b\"\\c.tla"⟩, [escapedDiagnostic])

/-- A report of that file and of one that comes before it in path order. -/
def escapedReport : Collection :=
  (Collection.empty.add escapedEntry.1 escapedDiagnostic).add
    ⟨"/specs/Queue.tla"⟩ ⟨⟨⟨0, 0⟩, ⟨0, 0⟩⟩, .error, ""⟩

/-- A directory with a file of reports that holds a line that is no record. -/
def begunReports : Storage where
  files := ⟨[(["reports".toList], .directory),
    (["reports".toList, "tlc.jsonl".toList], .file (Text.encode "no record\n") false)]⟩
  here := ["reports".toList]
  output := []

/-- It is read back twice when it has been written twice behind a line that is no record, and when it
has been applied twice to a file that holds the line. Its two files come in path order. -/
theorem escapedEntry_read_back :
    let entries := [(⟨"/specs/Queue.tla"⟩, [⟨⟨⟨0, 0⟩, ⟨0, 0⟩⟩, .error, ""⟩]), escapedEntry]
    let reports := [escapedReport, escapedReport]
    let before := records (Text.encode "no record\n")
    Complete (Text.encode "no record\n") ∧
      records (Text.encode "no record\n" ++ reports.flatMap payload) =
        before ++ (entries ++ entries).map some ∧
      (∃ s, reports.foldlM (fun s c => Sink.apply "tlc.jsonl" c s) begunReports = .ok s ∧
        records (Sink.held "tlc.jsonl" s) = before ++ (entries ++ entries).map some) ∧
      escapedReport.Built ∧
      (Collection.keys escapedReport.files).Pairwise (fun p q => p.compare q = .lt) ∧
      cutLines (payload escapedReport) = entries.map lineBytes ∧
      recordOf? (lineBytes escapedEntry) = some escapedEntry := by
  intro entries reports before
  have hcomplete : Complete (Text.encode "no record\n") := by decide +kernel
  have hfiles : escapedReport.files = entries := by decide +kernel
  have hbuilt : escapedReport.Built := (Collection.Built.empty.add _ _).add _ _
  have hheld : Sink.held "tlc.jsonl" begunReports = Text.encode "no record\n" := by decide +kernel
  have hfile : ¬Sink.IsDevice "tlc.jsonl" begunReports := by decide +kernel
  have happlies : (reports.foldlM (fun s c => Sink.apply "tlc.jsonl" c s) begunReports).isOk := by
    decide +kernel
  obtain ⟨hrecords, hsink, hreport⟩ := records_read_back hcomplete reports
  obtain ⟨hlines, hordered, hentries, _⟩ := hreport escapedReport
  have hread : reports.flatMap (·.files.map some) = (entries ++ entries).map some := by
    simp only [reports, List.flatMap_cons, List.flatMap_nil, hfiles, List.append_nil, List.map_append]
  rw [hread] at hrecords hsink
  rw [hfiles] at hlines hentries
  refine ⟨hcomplete, hrecords, ?_, hbuilt, hordered hbuilt, hlines, ?_⟩
  · cases happly : reports.foldlM (fun s c => Sink.apply "tlc.jsonl" c s) begunReports with
    | error failure =>
      rw [happly] at happlies
      cases happlies
    | ok s => exact ⟨s, rfl, hsink _ _ s hheld hfile happly⟩
  · obtain ⟨_, _, hentry⟩ := hentries escapedEntry (List.mem_cons_of_mem _ List.mem_cons_self)
    exact hentry

end Jsonl

end ModelCheck
