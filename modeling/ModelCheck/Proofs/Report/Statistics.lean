import ModelCheck.Proofs.Text.Groups
import ModelCheck.Report.Statistics

/-!
# Progress reports as they are written

A progress report gives its counts in groups of digits, perhaps with a depth and a time in front and with
rates in between. Neither a rate nor a comma nor a digit of the time is taken for a count, and each count
is read as a whole.
-/

namespace ModelCheck.Statistics

open Text

/-! ### Reading by longest runs -/

/-- What stands behind the first count. -/
def generatedMark : List Char := " states generated".toList

/-- What stands behind the second count. -/
def distinctMark : List Char := " distinct states found".toList

/-- What stands behind the third count. -/
def leftMark : List Char := " state".toList

/-- Reads the third count, behind what may be passed over. -/
def third? (generated distinct s : List Char) : Option (List Char × List Char × List Char) :=
  seek? isCount leftMark
    (fun left s => (after? " left on queue".toList ((after? ['s'] s).getD s)).map fun _ =>
      (generated, distinct, left)) s

/-- Reads the second and third counts, behind what may be passed over. -/
def second? (generated s : List Char) : Option (List Char × List Char × List Char) :=
  seek? isCount distinctMark (third? generated) s

/-- The first count ends where its mark begins, which is with a blank. -/
theorem ends_generatedMark : Ends isCount generatedMark := ends_cons (by decide) _

/-- So does the second one. -/
theorem ends_distinctMark : Ends isCount distinctMark := ends_cons (by decide) _

/-- And so does the third one. -/
theorem ends_leftMark : Ends isCount leftMark := ends_cons (by decide) _

/-- Each count is the longest run of its characters, since a blank must follow it. -/
theorem counts?_eq (s : List Char) : counts? s = runThen? isCount generatedMark second? s := by
  have hthird : third? = fun generated distinct s => (skips s).findSome? fun s =>
      (runs isCount s).findSome? fun r => (after? leftMark r.2).bind fun s =>
        (after? " left on queue".toList ((after? ['s'] s).getD s)).map fun _ =>
          (generated, distinct, r.1) := by
    funext generated distinct s
    refine congrArg (List.findSome? · (skips s)) (funext fun s => ?_)
    exact (findSome?_runs ends_leftMark (List.cons_ne_nil _ _) _ s).symm
  have hsecond : second? = fun generated s => (skips s).findSome? fun s =>
      (runs isCount s).findSome? fun r =>
        (after? distinctMark r.2).bind (third? generated r.1) := by
    funext generated s
    refine congrArg (List.findSome? · (skips s)) (funext fun s => ?_)
    exact (findSome?_runs ends_distinctMark (List.cons_ne_nil _ _) _ s).symm
  rw [← findSome?_runs ends_generatedMark (List.cons_ne_nil _ _), hsecond, hthird]
  rfl

/-! ### Lines -/

/-- A time by its numbers. -/
structure Clock where
  year : Nat
  month : Nat
  day : Nat
  hour : Nat
  minute : Nat
  second : Nat

namespace Clock

/-- The date of a time and its hour, as `YYYY-MM-DD HH`. -/
def hourText (t : Clock) : List Char :=
  (padded 4 t.year).toList ++ '-' :: ((padded 2 t.month).toList ++ '-' ::
    ((padded 2 t.day).toList ++ ' ' :: (padded 2 t.hour).toList))

/-- A time as `YYYY-MM-DD HH:MM:SS`. -/
def text (t : Clock) : List Char :=
  t.hourText ++ ':' :: ((padded 2 t.minute).toList ++ ':' :: (padded 2 t.second).toList)

end Clock

/-- What stands behind a count for its rate in a unit per minute, nothing without a rate. -/
def rateText (unit : List Char) : Option Nat → List Char
  | none => []
  | some rate => [' ', '('] ++ grouped rate ++ [' '] ++ unit ++ "/min)".toList

/-- The counts in groups of digits, the first two with their rates if these are given. -/
def countsText (r : Statistics) (generatedRate distinctRate : Option Nat) : List Char :=
  grouped r.generated ++ " states generated".toList
    ++ (rateText "s".toList generatedRate ++ ',' :: ' ' ::
      (grouped r.distinct ++ " distinct states found".toList
        ++ (rateText "ds".toList distinctRate ++ ',' :: ' ' ::
          (grouped r.left ++ " states left on queue.".toList))))

/-- What ends the depth and the time. -/
def depthMark : List Char := ": ".toList

/-- Puts a depth and a time in front of the counts, if there is a depth. -/
def withDepth (clock : Clock) : Option Nat → List Char → List Char
  | none, counts => counts
  | some depth, counts =>
    "Progress(".toList ++ (decimal depth ++ ([')'] ++ (" at ".toList ++ (clock.text ++
      (depthMark ++ counts)))))

/-- The line of a progress report. -/
def line (r : Statistics) (clock : Clock) (generatedRate distinctRate : Option Nat) : List Char :=
  withDepth clock r.diameter (r.countsText generatedRate distinctRate)

/-- Whether all numbers of a report are below `2 ^ 64`. -/
structure Fits (r : Statistics) : Prop where
  diameter : ∀ depth ∈ r.diameter, depth < 18446744073709551616
  generated : r.generated < 18446744073709551616
  distinct : r.distinct < 18446744073709551616
  left : r.left < 18446744073709551616

/-! ### What is passed over -/

/-- A number in groups is a run of the characters that a count may have. -/
theorem isRun_grouped (n : Nat) : IsRun isCount (grouped n) := by
  obtain ⟨first, rest, hgrouped, -⟩ := exists_grouped n
  refine ⟨by simp [hgrouped], fun c hc => ?_⟩
  rcases mem_grouped hc with hdigit | rfl
  · simp [isCount, isDigit_of_isAsciiDigit hdigit]
  · decide

/-- A number in groups stands on one line. -/
theorem lineFeed_not_mem_grouped (n : Nat) : '\n' ∉ grouped n := by
  intro h
  rcases mem_grouped h with hdigit | hcomma
  · exact absurd hdigit (by decide)
  · exact absurd hcomma (by decide)

section Rate

variable {α : Type} {mark s : List Char} {next : List Char → List Char → Option α}

/-- The comma before a count is no count, since the mark of a count does not stand behind it. -/
theorem seek?_comma (hnext : after? mark (' ' :: s) = none) :
    seek? isCount mark next (',' :: ' ' :: s) = seek? isCount mark next s := by
  have hrun : seek? isCount mark next ([','] ++ ' ' :: s) = seek? isCount mark next (' ' :: s) :=
    seek?_run (by decide) (by decide) (by decide) hnext
  have hblank : seek? isCount mark next ([' '] ++ s) = seek? isCount mark next s :=
    seek?_other (by decide) s
  exact hrun.trans hblank

/-- A rate is no count either, for its unit stands behind it. So a count is sought behind them. -/
theorem seek?_rate {unit : List Char} (hunit : IsGap isCount unit)
    (hrate : ∀ rest, after? mark (' ' :: (unit ++ rest)) = none)
    (hnext : after? mark (' ' :: s) = none) (rate : Option Nat) :
    seek? isCount mark next (rateText unit rate ++ ',' :: ' ' :: s) =
      seek? isCount mark next s := by
  cases rate with
  | none => exact seek?_comma hnext
  | some rate =>
    have hminute : IsGap isCount "/min)".toList := by decide
    let behind := unit ++ ("/min)".toList ++ ',' :: ' ' :: s)
    calc
      seek? isCount mark next (rateText unit (some rate) ++ ',' :: ' ' :: s)
        = seek? isCount mark next ([' ', '('] ++ (grouped rate ++ ([' '] ++ behind))) := by
          simp [rateText, behind]
      _ = seek? isCount mark next (grouped rate ++ ([' '] ++ behind)) :=
          seek?_other (by decide) _
      _ = seek? isCount mark next ([' '] ++ behind) :=
          seek?_run (lineFeed_not_mem_grouped rate) (isRun_grouped rate) (by decide) (hrate _)
      _ = seek? isCount mark next behind := seek?_other (by decide) _
      _ = seek? isCount mark next ("/min)".toList ++ ',' :: ' ' :: s) := seek?_other hunit _
      _ = seek? isCount mark next (',' :: ' ' :: s) := seek?_other hminute _
      _ = seek? isCount mark next s := seek?_comma hnext

end Rate

/-- A mark whose first word does not begin with a digit does not stand in front of a number. -/
theorem after?_blank_grouped {a : Char} (ha : isAsciiDigit a = false) (mark rest : List Char)
    (n : Nat) : after? (' ' :: a :: mark) (' ' :: (grouped n ++ rest)) = none := by
  obtain ⟨c, more, hc, hdigit⟩ := exists_grouped n
  have hne : a ≠ c := by
    rintro rfl
    simp [hdigit] at ha
  rw [after?, if_pos rfl, hc]
  exact after?_cons_of_ne hne mark (more ++ rest)

/-! ### The counts of a line -/

/-- The third count is read, and what is behind it. -/
theorem third?_text (generated distinct : List Char) (left : Nat) (rate : Option Nat) :
    third? generated distinct (rateText "ds".toList rate ++ ',' :: ' ' ::
      (grouped left ++ " states left on queue.".toList)) =
        some (generated, distinct, grouped left) := by
  have hmark : " states left on queue.".toList = leftMark ++ "s left on queue.".toList := by decide
  have hnext : after? leftMark (' ' :: (grouped left ++ " states left on queue.".toList)) = none :=
    after?_blank_grouped (by decide) _ _ left
  rw [third?, seek?_rate (by decide) (fun _ => rfl) hnext, hmark, ← List.append_assoc]
  exact seek?_here (isRun_grouped left) ends_leftMark (List.cons_ne_nil _ _) rfl

/-- The three counts of a line are read as they are written. -/
theorem counts?_countsText (r : Statistics) (generatedRate distinctRate : Option Nat) :
    counts? (r.countsText generatedRate distinctRate) =
      some (grouped r.generated, grouped r.distinct, grouped r.left) := by
  let behind := rateText "ds".toList distinctRate ++ ',' :: ' ' ::
    (grouped r.left ++ " states left on queue.".toList)
  have hnext : after? distinctMark (' ' :: (grouped r.distinct ++ distinctMark ++ behind)) = none := by
    rw [List.append_assoc]
    exact after?_blank_grouped (by decide) _ _ r.distinct
  have hsecond : second? (grouped r.generated) (rateText "s".toList generatedRate ++ ',' :: ' ' ::
      (grouped r.distinct ++ distinctMark ++ behind)) =
        some (grouped r.generated, grouped r.distinct, grouped r.left) := by
    rw [second?, seek?_rate (by decide) (fun _ => rfl) hnext]
    exact seek?_here (isRun_grouped r.distinct) ends_distinctMark (List.cons_ne_nil _ _)
      (third?_text _ _ r.left distinctRate)
  have hfirst := runThen?_append (isRun_grouped r.generated) ends_generatedMark
    (List.cons_ne_nil _ _) second? (rateText "s".toList generatedRate ++ ',' :: ' ' ::
      (grouped r.distinct ++ distinctMark ++ behind))
  rw [hsecond] at hfirst
  rw [counts?_eq]
  exact hfirst

/-! ### The depth of a line -/

/-- Passes over as little as possible of a line up to the end of the time, and goes on. -/
def pastTime? {α : Type} (next : List Char → Option α) (s : List Char) : Option α :=
  (skips s).findSome? fun s => (after? depthMark s).bind next

section Time

variable {α : Type} {next : List Char → Option α}

/-- Text without a colon does not end the time. -/
theorem pastTime?_other {gap : List Char} (hgap : IsGap (· == ':') gap) (s : List Char) :
    pastTime? next (gap ++ s) = pastTime? next s := by
  refine findSome?_skips_append (fun hfeed => (hgap _ hfeed).2 rfl) fun q hq hsuffix => ?_
  obtain ⟨c, tail, rfl⟩ := List.exists_cons_of_ne_nil hq
  have hc : c ≠ ':' := beq_eq_false_iff_ne.mp (hgap c (hsuffix.mem List.mem_cons_self)).1
  have hnone : after? depthMark (c :: (tail ++ s)) = none := after?_cons_of_ne hc.symm _ _
  rw [List.cons_append, hnone, Option.bind_none]

/-- A padded number has digits only, so the time goes on with it. -/
theorem isGap_padded (width n : Nat) : IsGap (· == ':') (padded width n).toList := by
  intro c hc
  have hdigit : isAsciiDigit c = true := isAsciiDigit_of_mem_padded hc
  constructor
  · refine beq_eq_false_iff_ne.mpr ?_
    rintro rfl
    exact absurd hdigit (by decide)
  · rintro rfl
    exact absurd hdigit (by decide)

/-- Nor does a colon with a number behind it. -/
theorem pastTime?_number (width n : Nat) (s : List Char) :
    pastTime? next (':' :: ((padded width n).toList ++ s)) = pastTime? next s := by
  obtain ⟨c, more, hc⟩ := List.exists_cons_of_ne_nil (padded_ne_nil width n)
  have hdigit : isAsciiDigit c = true := isAsciiDigit_of_mem_padded (hc ▸ List.mem_cons_self)
  have hne : ' ' ≠ c := by
    rintro rfl
    exact absurd hdigit (by decide)
  have hnone : after? depthMark (':' :: ((padded width n).toList ++ s)) = none := by
    rw [hc]
    exact after?_cons_of_ne hne _ _
  have hcolon : pastTime? next (':' :: ((padded width n).toList ++ s)) =
      pastTime? next ((padded width n).toList ++ s) :=
    findSome?_skips_cons (by decide) (by rw [hnone, Option.bind_none])
  rw [hcolon, pastTime?_other (isGap_padded width n)]

/-- The date and the hour have no colon in them, so the time goes on with them. -/
theorem isGap_hourText (clock : Clock) : IsGap (· == ':') clock.hourText := by
  have hday : IsGap (· == ':') ((padded 2 clock.day).toList ++ ' ' :: (padded 2 clock.hour).toList) :=
    (isGap_padded 2 clock.day).append (.cons (by decide) (isGap_padded 2 clock.hour))
  have hmonth : IsGap (· == ':') ((padded 2 clock.month).toList ++ '-' ::
      ((padded 2 clock.day).toList ++ ' ' :: (padded 2 clock.hour).toList)) :=
    (isGap_padded 2 clock.month).append (.cons (by decide) hday)
  exact (isGap_padded 4 clock.year).append (.cons (by decide) hmonth)

/-- The time is passed over as a whole. -/
theorem pastTime?_clock (clock : Clock) {s : List Char} {a : α} (h : next s = some a) :
    pastTime? next (" at ".toList ++ (clock.text ++ (depthMark ++ s))) = some a := by
  have hhere : (after? depthMark (depthMark ++ s)).bind next = some a := by
    rw [after?_append, Option.bind_some, h]
  calc
    pastTime? next (" at ".toList ++ (clock.text ++ (depthMark ++ s)))
      = pastTime? next (clock.text ++ (depthMark ++ s)) := pastTime?_other (by decide) _
    _ = pastTime? next (clock.hourText ++ ':' :: ((padded 2 clock.minute).toList ++
          ':' :: ((padded 2 clock.second).toList ++ (depthMark ++ s)))) := by
        simp only [Clock.text, List.append_assoc, List.cons_append]
    _ = pastTime? next (depthMark ++ s) := by
        rw [pastTime?_other (isGap_hourText clock), pastTime?_number, pastTime?_number]
    _ = some a := findSome?_skips_of_some hhere

end Time

/-- The depth is read first, then the time is passed over, and the counts are read behind it. -/
theorem depthAndCounts?_eq (s : List Char) :
    depthAndCounts? s =
      (after? "Progress(".toList s).bind fun s => (run? isDigit s).bind fun depth =>
        (after? [')'] depth.2).bind (pastTime? fun s => (counts? s).map (depth.1, ·)) := rfl

/-- Behind the depth and the time the counts are read. -/
theorem depthAndCounts?_withDepth (clock : Clock) (depth : Nat) {counts : List Char}
    {read : List Char × List Char × List Char} (h : counts? counts = some read) :
    depthAndCounts? (withDepth clock (some depth) counts) = some (decimal depth, read) := by
  let behind := " at ".toList ++ (clock.text ++ (depthMark ++ counts))
  have hopen : after? "Progress(".toList (withDepth clock (some depth) counts) =
      some (decimal depth ++ ([')'] ++ behind)) := after?_append _ _
  have hdepth : run? isDigit (decimal depth ++ ([')'] ++ behind)) =
      some (decimal depth, [')'] ++ behind) :=
    run?_append (decimal_ne_nil depth) (isRun_decimal depth).2 (by decide) behind
  have hclose : after? [')'] ([')'] ++ behind) = some behind := after?_append _ _
  have hcounts : (counts? counts).map (decimal depth, ·) = some (decimal depth, read) := by
    rw [h, Option.map_some]
  rw [depthAndCounts?_eq, hopen, Option.bind_some, hdepth, Option.bind_some, hclose,
    Option.bind_some]
  exact pastTime?_clock clock hcounts

/-- A line without a depth begins with a digit. -/
theorem depthAndCounts?_countsText (r : Statistics) (generatedRate distinctRate : Option Nat) :
    depthAndCounts? (r.countsText generatedRate distinctRate) = none := by
  obtain ⟨c, rest, hc, hdigit⟩ := exists_grouped r.generated
  have hne : 'P' ≠ c := by
    rintro rfl
    exact absurd hdigit (by decide)
  have hnone : after? "Progress(".toList (r.countsText generatedRate distinctRate) = none := by
    rw [countsText, hc]
    exact after?_cons_of_ne hne _ _
  rw [depthAndCounts?_eq, hnone, Option.bind_none]

/-! ### Whole lines -/

/-- What is read from a line is what the report holds, each number as it is written. -/
theorem leftmost?_line (r : Statistics) (clock : Clock) (generatedRate distinctRate : Option Nat) :
    leftmost? here? (r.line clock generatedRate distinctRate) =
      some (r.diameter.map decimal, grouped r.generated, grouped r.distinct, grouped r.left) := by
  have hcounts := counts?_countsText r generatedRate distinctRate
  refine leftmost?_of_some ?_
  rw [here?, line]
  cases r.diameter with
  | none =>
    have hplain : withDepth clock none (r.countsText generatedRate distinctRate) =
        r.countsText generatedRate distinctRate := rfl
    rw [hplain, depthAndCounts?_countsText, hcounts]
    rfl
  | some depth =>
    rw [depthAndCounts?_withDepth clock depth hcounts]
    rfl

/-- A progress report is read from its line as it was written, whatever its counts are, with or without
depth, time and rates. Each of its numbers below `2 ^ 64` is read from its groups of digits, and no
other is. -/
theorem line_read_back (r : Statistics) (hr : r.Fits) (clock : Clock)
    (generatedRate distinctRate : Option Nat) :
    parse? (r.line clock generatedRate distinctRate) = some r ∧
      ∀ n, readGrouped? (groupDigits n).toList =
        if n < 18446744073709551616 then some n else none := by
  refine ⟨?_, readGrouped?_grouped⟩
  have hdiameter : (r.diameter.map decimal).bind readGrouped? = r.diameter := by
    cases hdepth : r.diameter with
    | none => rfl
    | some depth =>
      rw [Option.map_some, Option.bind_some, readGrouped?_decimal,
        if_pos (hr.diameter depth (by rw [hdepth]; rfl))]
  simp only [parse?, leftmost?_line, Option.bind_eq_bind, Option.bind_some, readGrouped?_grouped,
    hdiameter, hr.generated, hr.distinct, hr.left, if_true]
  rfl

/-- A report with a number as large as it can be. -/
def largest : Statistics := ⟨some 7, 18446744073709551615, 1234567, 0⟩

/-- It is read from a line with a time and both rates. -/
theorem largest_read_back :
    largest.Fits ∧
      String.ofList (largest.line ⟨2024, 1, 2, 10, 11, 12⟩ (some 4321) (some 99)) =
        "Progress(7) at 2024-01-02 10:11:12: 18,446,744,073,709,551,615 states generated" ++
          " (4,321 s/min), 1,234,567 distinct states found (99 ds/min), 0 states left on queue." ∧
      parse? (largest.line ⟨2024, 1, 2, 10, 11, 12⟩ (some 4321) (some 99)) = some largest := by
  have hfits : largest.Fits := ⟨by decide, by decide, by decide, by decide⟩
  exact ⟨hfits, by decide +kernel, (line_read_back largest hfits _ _ _).1⟩

end ModelCheck.Statistics
