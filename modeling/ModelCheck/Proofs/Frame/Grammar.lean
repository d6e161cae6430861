import ModelCheck.Proofs.Frame

/-!
# The grammar of frame lines

A frame line is one of two literals with numerals between their parts, and nothing else. The grammar is
stated by the texts that it has, without reference to the readers: a numeral is any nonempty text of ASCII
digits whose value is below `2 ^ 32`. A line is classified as what its text is in this grammar, after the
carriage returns and line feeds at its end are gone.
-/

namespace ModelCheck.Frame

open Text (IsRun isAsciiDigit)

/-! ### Numerals -/

/-- A text of ASCII digits, zeros in front included, with a value below `2 ^ 32`. -/
structure Numeral (digits : List Char) (n : Nat) : Prop where
  run : IsRun isAsciiDigit digits
  value : Nat.ofDigitChars 10 digits 0 = n
  small : n < 4294967296

/-- A number is read from just the numerals, and has the value that they have. -/
theorem readNat32?_eq_some_iff {digits : List Char} {n : Nat} :
    Text.readNat32? digits = some n ↔ Numeral digits n := by
  constructor
  · intro h
    obtain ⟨hrun, hvalue, hsmall⟩ := Text.readNat?_eq_some_iff.mp h
    exact ⟨hrun, hvalue, hsmall⟩
  · intro h
    exact Text.readNat?_eq_some_iff.mpr ⟨h.run, h.value, h.small⟩

/-- A code is read from a numeral up to the first character that is no ASCII digit. -/
theorem code?_eq_some_iff {s rest : List Char} {n : Nat} :
    code? s = some (n, rest) ↔
      ∃ digits, Numeral digits n ∧ s = digits ++ rest ∧ Text.Ends isAsciiDigit rest := by
  constructor
  · intro h
    obtain ⟨⟨digits, behind⟩, hdivided, hread⟩ := Option.bind_eq_some_iff.mp h
    obtain ⟨value, hvalue, hpair⟩ := Option.bind_eq_some_iff.mp hread
    obtain ⟨rfl, rfl⟩ : value = n ∧ behind = rest := by simpa using hpair
    obtain ⟨hs, -, hends⟩ := Text.run?_eq_some_iff.mp hdivided
    exact ⟨digits, readNat32?_eq_some_iff.mp hvalue, hs, hends⟩
  · rintro ⟨digits, hnumeral, rfl, hends⟩
    have hdivided := Text.run?_eq_some_iff.mpr ⟨rfl, hnumeral.run, hends⟩
    have hvalue := readNat32?_eq_some_iff.mpr hnumeral
    simp [code?, hdivided, hvalue]

/-- A numeral has digits in it and nothing else. -/
theorem Numeral.not_mem {digits : List Char} {n : Nat} (h : Numeral digits n) {c : Char}
    (hc : isAsciiDigit c = false) : c ∉ digits := by
  intro hmem
  simp [h.run.2 c hmem] at hc

/-! ### Texts of frame lines -/

/-- The text of a start line around two numbers. -/
def startText (code severity : List Char) : List Char :=
  "@!@!@STARTMSG ".toList ++ (code ++ ':' :: (severity ++ " @!@!@".toList))

/-- The text of an end line around a number. -/
def stopText (code : List Char) : List Char :=
  "@!@!@ENDMSG ".toList ++ (code ++ " @!@!@".toList)

/-- Whether a text is a start line. -/
def IsStart (t : List Char) (code severity : Nat) : Prop :=
  ∃ a b, Numeral a code ∧ Numeral b severity ∧ t = startText a b

/-- Whether a text is an end line. -/
def IsStop (t : List Char) (code : Nat) : Prop := ∃ a, Numeral a code ∧ t = stopText a

/-- Whether a text is a frame line. -/
def IsFrame (t : List Char) : Prop :=
  (∃ code severity, IsStart t code severity) ∨ ∃ code, IsStop t code

/-- The two kinds of frame lines differ at their sixth character. -/
theorem startText_ne_stopText (a b code : List Char) : startText a b ≠ stopText code := by
  intro h
  have hsixth : some 'S' = some 'E' := congrArg (fun t => t[5]?) h
  exact absurd hsixth (by decide)

/-- No text is both a start line and an end line. -/
theorem IsStart.not_stop {t : List Char} {code severity : Nat} (h : IsStart t code severity)
    (stopped : Nat) : ¬ IsStop t stopped := by
  obtain ⟨a, b, -, -, rfl⟩ := h
  rintro ⟨c, -, ht⟩
  exact startText_ne_stopText a b c ht

/-- Start lines are read, and nothing else is read as one. -/
theorem start?_eq_some_iff {t : List Char} {frame : Frame} :
    start? t = some frame ↔ ∃ code severity, frame = .start code severity ∧ IsStart t code severity := by
  constructor
  · intro h
    obtain ⟨afterMark, hmark, h⟩ := Option.bind_eq_some_iff.mp h
    obtain ⟨⟨code, afterCode⟩, hcode, h⟩ := Option.bind_eq_some_iff.mp h
    obtain ⟨afterColon, hcolon, h⟩ := Option.bind_eq_some_iff.mp h
    obtain ⟨⟨severity, close⟩, hseverity, h⟩ := Option.bind_eq_some_iff.mp h
    obtain ⟨rfl, rfl⟩ : close = closeMark ∧ Frame.start code severity = frame := by simpa using h
    obtain ⟨a, ha, rfl, -⟩ := code?_eq_some_iff.mp hcode
    obtain ⟨b, hb, rfl, -⟩ := code?_eq_some_iff.mp hseverity
    rw [Text.after?_eq_some_iff] at hmark hcolon
    exact ⟨code, severity, rfl, a, b, ha, hb, by rw [hmark, hcolon]; rfl⟩
  · rintro ⟨code, severity, rfl, a, b, ha, hb, rfl⟩
    have hcode : code? (a ++ ':' :: (b ++ closeMark)) = some (code, ':' :: (b ++ closeMark)) :=
      code?_eq_some_iff.mpr ⟨a, ha, rfl, Text.ends_cons (by decide) _⟩
    have hseverity : code? (b ++ closeMark) = some (severity, closeMark) :=
      code?_eq_some_iff.mpr ⟨b, hb, rfl, by decide⟩
    have hmark : Text.after? startMark (startText a b) = some (a ++ ':' :: (b ++ closeMark)) :=
      Text.after?_append startMark _
    have hcolon : Text.after? [':'] (':' :: (b ++ closeMark)) = some (b ++ closeMark) :=
      Text.after?_append [':'] _
    simp [start?, hmark, hcode, hcolon, hseverity]

/-- Nothing is read as a start line where there is none. -/
theorem start?_eq_none_iff {t : List Char} :
    start? t = none ↔ ¬ ∃ code severity, IsStart t code severity := by
  constructor
  · rintro hnone ⟨code, severity, h⟩
    rw [start?_eq_some_iff.mpr ⟨code, severity, rfl, h⟩] at hnone
    cases hnone
  · intro hnot
    refine Option.eq_none_iff_forall_not_mem.mpr fun frame hframe => hnot ?_
    obtain ⟨code, severity, -, h⟩ := start?_eq_some_iff.mp hframe
    exact ⟨code, severity, h⟩

/-- End lines are read, and nothing else is read as one. -/
theorem stop?_eq_some_iff {t : List Char} {frame : Frame} :
    stop? t = some frame ↔ ∃ code, frame = .stop code ∧ IsStop t code := by
  constructor
  · intro h
    obtain ⟨afterMark, hmark, h⟩ := Option.bind_eq_some_iff.mp h
    obtain ⟨⟨code, close⟩, hcode, h⟩ := Option.bind_eq_some_iff.mp h
    obtain ⟨rfl, rfl⟩ : close = closeMark ∧ Frame.stop code = frame := by simpa using h
    obtain ⟨a, ha, rfl, -⟩ := code?_eq_some_iff.mp hcode
    exact ⟨code, rfl, a, ha, Text.after?_eq_some_iff.mp hmark⟩
  · rintro ⟨code, rfl, a, ha, rfl⟩
    have hcode : code? (a ++ closeMark) = some (code, closeMark) :=
      code?_eq_some_iff.mpr ⟨a, ha, rfl, by decide⟩
    have hmark : Text.after? stopMark (stopText a) = some (a ++ closeMark) :=
      Text.after?_append stopMark _
    simp [stop?, hmark, hcode]

/-- Nothing is read as an end line where there is none. -/
theorem stop?_eq_none_iff {t : List Char} : stop? t = none ↔ ¬ ∃ code, IsStop t code := by
  constructor
  · rintro hnone ⟨code, h⟩
    rw [stop?_eq_some_iff.mpr ⟨code, rfl, h⟩] at hnone
    cases hnone
  · intro hnot
    refine Option.eq_none_iff_forall_not_mem.mpr fun frame hframe => hnot ?_
    obtain ⟨code, -, h⟩ := stop?_eq_some_iff.mp hframe
    exact ⟨code, h⟩

/-! ### What a line is -/

/-- A line divided into its text and the carriage returns and line feeds that end it. -/
structure Terminated (line t : List Char) : Prop where
  ending : ∃ ending, (∀ c ∈ ending, c = '\r' ∨ c = '\n') ∧ line = t ++ ending
  last : ∀ c ∈ t.getLast?, c ≠ '\r' ∧ c ≠ '\n'

/-- Stripping takes off all carriage returns and line feeds at the end, and nothing else. -/
theorem terminated_stripEnding (line : List Char) : Terminated line (stripEnding line) where
  ending := by
    obtain ⟨ending, hending, hline⟩ :=
      Text.exists_ending (fun c => c = '\r' || c = '\n') line
    exact ⟨ending, fun c hc => by simpa using hending c hc, hline⟩
  last c hc := by
    have hlast := Text.last_dropEndWhile (fun c => c = '\r' || c = '\n') line c hc
    simpa using hlast

/-- What a text without an ending is in the grammar. -/
inductive Reads (t : List Char) : Frame → Prop
  | start {code severity : Nat} (h : IsStart t code severity) : Reads t (.start code severity)
  | stop {code : Nat} (h : IsStop t code) : Reads t (.stop code)
  | text (h : ¬ IsFrame t) : Reads t (.text t)

/-- A line is classified as what its text is in the grammar. -/
theorem classify_eq_iff {line : List Char} {frame : Frame} :
    classify line = frame ↔ Reads (stripEnding line) frame := by
  rw [classify]
  generalize stripEnding line = t
  constructor
  · rintro rfl
    cases hstart : start? t with
    | some frame =>
      obtain ⟨code, severity, rfl, h⟩ := start?_eq_some_iff.mp hstart
      exact .start h
    | none =>
      cases hstop : stop? t with
      | some frame =>
        obtain ⟨code, rfl, h⟩ := stop?_eq_some_iff.mp hstop
        exact .stop h
      | none =>
        refine .text ?_
        rintro (h | h)
        · exact start?_eq_none_iff.mp hstart h
        · exact stop?_eq_none_iff.mp hstop h
  · intro h
    cases h with
    | start h => rw [start?_eq_some_iff.mpr ⟨_, _, rfl, h⟩]; rfl
    | stop h =>
      have hstart : start? t = none := by
        refine start?_eq_none_iff.mpr ?_
        rintro ⟨code, severity, hboth⟩
        exact hboth.not_stop _ h
      rw [hstart, stop?_eq_some_iff.mpr ⟨_, rfl, h⟩]
      rfl
    | text h =>
      have hstart : start? t = none := start?_eq_none_iff.mpr fun hstart => h (.inl hstart)
      have hstop : stop? t = none := stop?_eq_none_iff.mpr fun hstop => h (.inr hstop)
      rw [hstart, hstop]
      rfl

/-! ### What is no frame line -/

/-- A text with the parts of a start line is one just if both of its numbers are numerals. -/
theorem isFrame_startText_iff {a b : List Char} :
    IsFrame (startText a b) ↔ ∃ code severity, Numeral a code ∧ Numeral b severity := by
  constructor
  · rintro (⟨code, severity, a', b', ha, hb, h⟩ | ⟨code, c, -, h⟩)
    · -- the numerals of the line have no colon, so it is divided at the only one
      have hcode : ':' ∉ a' := ha.not_mem (by decide)
      have hseverity : ':' ∉ b' ++ closeMark :=
        List.not_mem_append (hb.not_mem (by decide)) (by decide)
      have hrest := List.append_cancel_left h.symm
      obtain ⟨rfl, -, hbehind⟩ := (List.append_cons_inj_of_notMem hcode hseverity).mp hrest
      obtain rfl := List.append_cancel_right hbehind
      exact ⟨code, severity, ha, hb⟩
    · exact absurd h (startText_ne_stopText a b c)
  · rintro ⟨code, severity, ha, hb⟩
    exact .inl ⟨code, severity, a, b, ha, hb, rfl⟩

/-- A text with the parts of an end line is one just if its number is a numeral. -/
theorem isFrame_stopText_iff {a : List Char} : IsFrame (stopText a) ↔ ∃ code, Numeral a code := by
  constructor
  · rintro (⟨code, severity, a', b', -, -, h⟩ | ⟨code, c, hc, h⟩)
    · exact absurd h.symm (startText_ne_stopText a' b' a)
    · obtain rfl := List.append_cancel_right (List.append_cancel_left h)
      exact ⟨code, hc⟩
  · rintro ⟨code, ha⟩
    exact .inr ⟨code, a, ha, rfl⟩

/-- What is left of a text without its ASCII digits. -/
def skeleton (t : List Char) : List Char := t.filter (fun c => !isAsciiDigit c)

/-- Digits are dropped character by character. -/
theorem skeleton_append (s t : List Char) : skeleton (s ++ t) = skeleton s ++ skeleton t :=
  List.filter_append ..

/-- Nothing is left of a numeral. -/
theorem Numeral.skeleton_eq {digits : List Char} {n : Nat} (h : Numeral digits n) :
    skeleton digits = [] := by
  refine List.filter_eq_nil_iff.mpr fun c hc => ?_
  simp [h.run.2 c hc]

/-- Without their numbers all start lines are alike, and so are all end lines. -/
theorem IsFrame.skeleton_eq {t : List Char} (h : IsFrame t) :
    skeleton t = startText [] [] ∨ skeleton t = stopText [] := by
  rcases h with ⟨code, severity, a, b, ha, hb, rfl⟩ | ⟨code, a, ha, rfl⟩
  · left
    have hcolon : skeleton (':' :: (b ++ closeMark)) = [':'] ++ closeMark := by
      rw [← List.singleton_append, skeleton_append, skeleton_append, hb.skeleton_eq]
      decide
    change skeleton (startMark ++ (a ++ ':' :: (b ++ closeMark))) = _
    rw [skeleton_append, skeleton_append, ha.skeleton_eq, hcolon]
    decide
  · right
    change skeleton (stopMark ++ (a ++ closeMark)) = _
    rw [skeleton_append, skeleton_append, ha.skeleton_eq]
    decide

/-- A frame line is one line. -/
theorem IsFrame.not_mem_feed {t : List Char} (h : IsFrame t) : '\n' ∉ t := by
  intro hfeed
  have hmem : '\n' ∈ skeleton t := List.mem_filter.mpr ⟨hfeed, by decide⟩
  rcases h.skeleton_eq with hskeleton | hskeleton
  · rw [hskeleton] at hmem
    exact absurd hmem (by decide)
  · rw [hskeleton] at hmem
    exact absurd hmem (by decide)

/-- A frame line begins with the first character of its mark. -/
theorem IsFrame.head?_eq {t : List Char} (h : IsFrame t) : t.head? = some '@' := by
  rcases h with ⟨code, severity, a, b, -, -, rfl⟩ | ⟨code, a, -, rfl⟩
  · rfl
  · rfl

/-- A frame line ends with the last character of its mark. -/
theorem IsFrame.getLast?_eq {t : List Char} (h : IsFrame t) : t.getLast? = some '@' := by
  rcases h with ⟨code, severity, a, b, -, -, rfl⟩ | ⟨code, a, -, rfl⟩
  · have hdivided : startText a b = (startMark ++ (a ++ ':' :: b)) ++ closeMark := by
      rw [List.append_assoc, List.append_assoc, List.cons_append]
      rfl
    rw [hdivided, getLast?_close]
  · have hdivided : stopText a = (stopMark ++ a) ++ closeMark := by
      rw [List.append_assoc]
      rfl
    rw [hdivided, getLast?_close]

/-- If a frame line stands in another one, all that is around it is digits. -/
theorem IsFrame.skeleton_around {before t after : List Char} (h : IsFrame t)
    (hall : IsFrame (before ++ t ++ after)) : skeleton before = [] ∧ skeleton after = [] := by
  have hsplit : skeleton (before ++ t ++ after) = skeleton before ++ skeleton t ++ skeleton after := by
    rw [skeleton_append, skeleton_append]
  have hinfix : skeleton t <:+: skeleton (before ++ t ++ after) := ⟨_, _, hsplit.symm⟩
  have hsame : skeleton (before ++ t ++ after) = skeleton t := by
    rcases h.skeleton_eq with ht | ht
    · rcases hall.skeleton_eq with hall | hall
      · rw [hall, ht]
      · rw [ht, hall] at hinfix
        have hmem : 'T' ∈ stopText [] := hinfix.subset (by decide)
        exact absurd hmem (by decide)
    · rcases hall.skeleton_eq with hall | hall
      · rw [ht, hall] at hinfix
        have hmem : 'E' ∈ startText [] [] := hinfix.subset (by decide)
        exact absurd hmem (by decide)
      · rw [hall, ht]
  have hlength := congrArg List.length (hsplit.symm.trans hsame)
  simp only [List.length_append] at hlength
  constructor
  · exact List.length_eq_zero_iff.mp (by omega)
  · exact List.length_eq_zero_iff.mp (by omega)

/-- With anything before or behind it a frame line is none. -/
theorem IsFrame.not_longer {before t after : List Char} (h : IsFrame t)
    (hmore : before ++ after ≠ []) : ¬ IsFrame (before ++ t ++ after) := by
  intro hall
  obtain ⟨hbefore, hafter⟩ := h.skeleton_around hall
  have hmark : ∀ s, skeleton s = [] → '@' ∉ s := by
    intro s hs hmem
    exact absurd (List.filter_eq_nil_iff.mp hs _ hmem) (by decide)
  refine hmore (List.append_eq_nil_iff.mpr ⟨?_, ?_⟩)
  · -- a frame line begins with an at sign
    cases before with
    | nil => rfl
    | cons c before =>
      have hc : c = '@' := by simpa using hall.head?_eq
      exact absurd (by simp [hc]) (hmark _ hbefore)
  · -- and ends with one
    refine List.getLast?_eq_none_iff.mp (Option.eq_none_iff_forall_not_mem.mpr fun c hc => ?_)
    have hlast := hall.getLast?_eq
    rw [List.getLast?_append, Option.mem_def.mp hc, Option.some_or] at hlast
    obtain rfl := Option.some.inj hlast
    exact hmark _ hafter (List.mem_of_getLast? hc)

/-! ### The grammar -/

/-- A line is classified as a start line or an end line just if its text, without the carriage returns and
line feeds at its end, is one in the grammar, with the numbers that are written there; every other line is
its text. No text is both. What has a line feed inside, a number too large or in other digits, or anything
more before or behind it, is no frame line. A frame that is printed is read back, whatever ending its line
has. -/
theorem classify_by_grammar :
    (∀ line, ∃ t, Terminated line t ∧
      (∀ code severity, classify line = .start code severity ↔ IsStart t code severity) ∧
      (∀ code, classify line = .stop code ↔ IsStop t code) ∧
      (∀ content, classify line = .text content ↔ content = t ∧ ¬ IsFrame t) ∧
      ¬ ((∃ code severity, IsStart t code severity) ∧ ∃ code, IsStop t code)) ∧
    (∀ t, '\n' ∈ t → ¬ IsFrame t) ∧
    (∀ a b, IsFrame (startText a b) ↔ ∃ code severity, Numeral a code ∧ Numeral b severity) ∧
    (∀ a, IsFrame (stopText a) ↔ ∃ code, Numeral a code) ∧
    (∀ before t after, IsFrame t → before ++ after ≠ [] → ¬ IsFrame (before ++ t ++ after)) ∧
    ∀ code severity ending, code < 4294967296 → severity < 4294967296 →
      (∀ c ∈ ending, c = '\r' ∨ c = '\n') →
      classify (render (.start code severity) ++ ending) = .start code severity ∧
        classify (render (.stop code) ++ ending) = .stop code := by
  refine ⟨fun line => ⟨stripEnding line, terminated_stripEnding line, ?_, ?_, ?_, ?_⟩,
    fun t hfeed h => h.not_mem_feed hfeed, fun a b => isFrame_startText_iff,
    fun a => isFrame_stopText_iff, fun before t after h hmore => h.not_longer hmore, ?_⟩
  · intro code severity
    rw [classify_eq_iff]
    constructor
    · rintro ⟨⟩
      assumption
    · exact .start
  · intro code
    rw [classify_eq_iff]
    constructor
    · rintro ⟨⟩
      assumption
    · exact .stop
  · intro content
    rw [classify_eq_iff]
    constructor
    · rintro ⟨⟩
      exact ⟨rfl, ‹_›⟩
    · rintro ⟨rfl, h⟩
      exact .text h
  · rintro ⟨⟨code, severity, hstart⟩, stopped, hstop⟩
    exact hstart.not_stop stopped hstop
  · intro code severity ending hcode hseverity hending
    rw [classify_append hending, classify_append hending]
    exact ⟨classify_render_start hcode hseverity, classify_render_stop hcode⟩

/-- The largest code is read back from lines with several endings, one more is no code, and neither a line
feed inside nor a mark behind it belongs to a frame line. -/
theorem largestCode_classified :
    let ending := "\r\n\r".toList
    (4294967295 < 4294967296 ∧ ∀ c ∈ ending, c = '\r' ∨ c = '\n') ∧
      classify (render (.start 4294967295 3) ++ ending) = .start 4294967295 3 ∧
      classify (render (.stop 4294967295) ++ ending) = .stop 4294967295 ∧
      ¬ IsFrame (stopText "4294967296".toList) ∧ ¬ IsFrame (stopText "1\n2".toList) ∧
      IsFrame (stopText "007".toList) ∧ ¬ IsFrame (stopText "007".toList ++ ".".toList) := by
  intro ending
  obtain ⟨-, hfeed, -, hnumber, hmore, hread⟩ := classify_by_grammar
  have hending : ∀ c ∈ ending, c = '\r' ∨ c = '\n' := by simp [ending]
  obtain ⟨hstart, hstop⟩ := hread 4294967295 3 ending (by decide) (by decide) hending
  have hframe : IsFrame (stopText "007".toList) :=
    (hnumber _).mpr ⟨7, by decide, by decide, by decide⟩
  refine ⟨⟨by decide, hending⟩, hstart, hstop, ?_, hfeed _ (by decide), hframe,
    hmore [] _ _ hframe (by decide)⟩
  rw [hnumber]
  rintro ⟨code, hcode⟩
  have hvalue : 4294967296 = code := hcode.value
  have hsmall := hcode.small
  omega

end ModelCheck.Frame
