import ModelCheck.Proofs.Text.Trim
import ModelCheck.Session.Input

/-!
# The grammar of session lines

A line is a word and a rest between blank characters, in one way. What it asks for depends on the two
alone: most words are requests by themselves, whatever the rest is, and one takes the rest as a path.
-/

namespace ModelCheck

open Text (IsPadding Trimmed Ends)

/-- The words for a command in a session, apart from its identifier. -/
def Command.words : Command → List String
  | .run => ["run", "check"]
  | .stop => ["stop"]
  | .display => ["display", "show"]

/-- Each command is found under its own identifier and no other word. -/
theorem Command.ofId?_eq_some_iff {word : String} {c : Command} :
    ofId? word = some c ↔ word = c.id := by
  constructor
  · intro h
    have hid := List.find?_some h
    exact (of_decide_eq_true hid).symm
  · rintro rfl
    exact ofId?_id c

namespace Session.Input

/-- The words that ask for help. -/
def helpWords : List String := ["help", "?"]

/-- The words that end a session. -/
def quitWords : List String := ["quit", "exit"]

/-! ### The parts of a line -/

/-- A line in its parts: a word and a rest, with blank characters around and between them. There is no
rest without a word, and none right behind one. -/
structure Division where
  before : List Char
  word : List Char
  gap : List Char
  rest : List Char
  after : List Char
  blank_before : IsPadding before
  word_solid : ∀ c ∈ word, Text.isBlank c = false
  blank_gap : IsPadding gap
  rest_trimmed : Trimmed rest
  blank_after : IsPadding after
  word_of_rest : rest ≠ [] → word ≠ []
  gap_of_rest : rest ≠ [] → gap ≠ []

namespace Division

/-- The line that has the parts. -/
def line (d : Division) : String := String.ofList (d.before ++ d.word ++ d.gap ++ d.rest ++ d.after)

/-- A word has no blank character at all, so none at its ends. -/
theorem trimmed_word (d : Division) : Trimmed d.word where
  head c hc := d.word_solid c (List.mem_of_head? hc)
  last c hc := d.word_solid c (List.mem_of_getLast? hc)

/-- What stands between the outer blank characters of a line. -/
theorem trim_line (d : Division) :
    Text.trim d.line.toList = d.word ++ if d.rest = [] then [] else d.gap ++ d.rest := by
  rw [line, String.toList_ofList]
  by_cases hrest : d.rest = []
  · rw [if_pos hrest, hrest, List.append_nil, List.append_nil, List.append_assoc]
    exact Text.trim_padded d.blank_before d.trimmed_word (d.blank_gap.append d.blank_after)
  · have hword : d.word ≠ [] := d.word_of_rest hrest
    have htrimmed : Trimmed (d.word ++ (d.gap ++ d.rest)) := by
      constructor
      · intro c hc
        obtain ⟨first, more, hfirst⟩ := List.exists_cons_of_ne_nil hword
        refine d.trimmed_word.head c ?_
        simpa [hfirst] using hc
      · intro c hc
        obtain ⟨front, last, hlast⟩ := (List.eq_nil_or_concat' d.rest).resolve_left hrest
        refine d.rest_trimmed.last c ?_
        simpa [hlast] using hc
    rw [if_neg hrest]
    simpa only [List.append_assoc] using Text.trim_padded d.blank_before htrimmed d.blank_after

/-- The word and the rest are what a line is split into. -/
theorem splitWord_line (d : Division) : splitWord (Text.trim d.line.toList) = (d.word, d.rest) := by
  have hsplit : ∀ tail : List Char, (∀ c ∈ tail.head?, Text.isBlank c = true) →
      splitWord (d.word ++ tail) = (d.word, Text.trim tail) := by
    intro tail htail
    have hword : ∀ c ∈ d.word, (!Text.isBlank c) = true := fun c hc => by simp [d.word_solid c hc]
    rw [splitWord, List.takeWhile_append_of_pos hword, List.dropWhile_append_of_pos hword]
    cases tail with
    | nil => simp
    | cons c tail => simp [htail c rfl]
  rw [trim_line]
  by_cases hrest : d.rest = []
  · rw [if_pos hrest, hsplit [] (by simp), hrest]
    rfl
  · obtain ⟨c, gap, hgap⟩ := List.exists_cons_of_ne_nil (d.gap_of_rest hrest)
    have hblank : ∀ b ∈ (d.gap ++ d.rest).head?, Text.isBlank b = true := by
      intro b hb
      refine d.blank_gap b ?_
      rw [hgap] at hb ⊢
      exact List.mem_of_head? hb
    have htail : Text.trim (d.gap ++ d.rest) = d.rest := by
      simpa using Text.trim_padded d.blank_gap d.rest_trimmed Text.isPadding_nil
    rw [if_neg hrest, hsplit _ hblank, htail]

/-- A text has a first word, which a blank character ends. -/
theorem exists_word (s : List Char) :
    ∃ word tail, s = word ++ tail ∧ (∀ c ∈ word, Text.isBlank c = false) ∧
      ∀ c ∈ tail.head?, Text.isBlank c = true := by
  refine ⟨s.takeWhile fun c => !Text.isBlank c, s.dropWhile fun c => !Text.isBlank c,
    List.takeWhile_append_dropWhile.symm, fun c hc => ?_, fun c hc => ?_⟩
  · simpa using List.all_eq_true.mp List.all_takeWhile c hc
  · simpa using Text.ends_dropWhile (fun c => !Text.isBlank c) s c hc

/-- Every line has parts. -/
theorem exists_line (line : String) : ∃ d : Division, d.line = line := by
  obtain ⟨before, after, hbefore, hafter, hline⟩ := Text.exists_padding line.toList
  have htrimmed := Text.trimmed_trim line.toList
  obtain ⟨word, tail, htrim, hsolid, htail⟩ := exists_word (Text.trim line.toList)
  obtain ⟨gap, back, hgap, hback, hparts⟩ := Text.exists_padding tail
  rw [htrim] at hline htrimmed
  have hword : Text.trim tail ≠ [] → word ≠ [] := by
    rintro hrest rfl
    cases tail with
    | nil => exact hrest rfl
    | cons c tail =>
      have hsolid : Text.isBlank c = false := htrimmed.head c rfl
      simp [htail c rfl] at hsolid
  have hdivided : Text.trim tail ≠ [] → gap ≠ [] := by
    rintro hrest rfl
    obtain ⟨c, more, hfirst⟩ := List.exists_cons_of_ne_nil hrest
    have hsolid : Text.isBlank c = false :=
      (Text.trimmed_trim tail).head c (by rw [hfirst]; rfl)
    have hblank : Text.isBlank c = true := htail c (by rw [hparts, hfirst]; rfl)
    simp [hsolid] at hblank
  refine ⟨⟨before, word, gap, Text.trim tail, back ++ after, hbefore, hsolid, hgap,
    Text.trimmed_trim tail, hback.append hafter, hword, hdivided⟩, String.toList_injective ?_⟩
  rw [Division.line, String.toList_ofList, hline]
  conv_rhs => rw [hparts]
  simp only [List.append_assoc]

end Division

/-! ### The meaning of a word -/

/-- What a word asks for when a rest follows it. -/
inductive Means (rest : List Char) : String → Except InputError Input → Prop
  | empty : Means rest "" (.ok .empty)
  | command {word : String} {c : Command} (h : word ∈ c.id :: c.words) :
    Means rest word (.ok (.command c))
  | «open» (h : rest ≠ []) : Means rest "open" (.ok (.open ⟨String.ofList rest⟩))
  | help {word : String} (h : word ∈ helpWords) : Means rest word (.ok .help)
  | quit {word : String} (h : word ∈ quitWords) : Means rest word (.ok .quit)
  | fileMissing (h : rest = []) : Means rest "open" (.error .fileMissing)
  | unknown {word : String} (hempty : word ≠ "") (hopen : word ≠ "open")
    (hcommand : ∀ c : Command, word ∉ c.id :: c.words) (hhelp : word ∉ helpWords)
    (hquit : word ∉ quitWords) : Means rest word (.error (.unknown word))

/-- What is read from a word is what the word means. -/
theorem means_ofWord (word : String) (rest : List Char) :
    Means rest word (ofWord word.toList rest) := by
  rw [ofWord, String.ofList_toList]
  split
  case h_1 => exact .empty
  case h_2 => exact .command (by decide)
  case h_3 => exact .command (by decide)
  case h_4 => exact .command (by decide)
  case h_5 => exact .command (by decide)
  case h_6 => exact .command (by decide)
  case h_7 =>
    by_cases hrest : rest = []
    · simpa [hrest] using Means.fileMissing rfl
    · simpa [hrest] using Means.open hrest
  case h_8 => exact .help (by decide)
  case h_9 => exact .help (by decide)
  case h_10 => exact .quit (by decide)
  case h_11 => exact .quit (by decide)
  case h_12 hempty hrun hcheck hstop hdisplay hshow hopen hhelp hquestion hquit hexit =>
    cases hid : Command.ofId? word with
    | some c => exact .command (List.mem_cons.mpr (.inl (Command.ofId?_eq_some_iff.mp hid)))
    | none =>
      refine .unknown hempty hopen (fun c hc => ?_) (fun h => ?_) fun h => ?_
      · rcases List.mem_cons.mp hc with hc | hc
        · simp [Command.ofId?_eq_some_iff.mpr hc] at hid
        · cases c <;> simp_all [Command.words]
      · simp_all [helpWords]
      · simp_all [quitWords]

/-- What a word means is what is read from it. -/
theorem ofWord_of_means {word : String} {rest : List Char} {x : Except InputError Input}
    (h : Means rest word x) : ofWord word.toList rest = x := by
  cases h with
  | empty => rfl
  | @command _ c h =>
    have hwords : ∀ word ∈ c.id :: c.words, ofWord word.toList rest = .ok (.command c) := by
      cases c with
      | run =>
        simp only [Command.words, List.forall_mem_cons]
        exact ⟨rfl, rfl, rfl, List.forall_mem_nil _⟩
      | stop =>
        simp only [Command.words, List.forall_mem_cons]
        exact ⟨rfl, rfl, List.forall_mem_nil _⟩
      | display =>
        simp only [Command.words, List.forall_mem_cons]
        exact ⟨rfl, rfl, rfl, List.forall_mem_nil _⟩
    exact hwords word h
  | «open» h => exact if_neg (by simpa using h)
  | help h =>
    have hwords : ∀ word ∈ helpWords, ofWord word.toList rest = .ok .help := by
      simp only [helpWords, List.forall_mem_cons]
      exact ⟨rfl, rfl, List.forall_mem_nil _⟩
    exact hwords word h
  | quit h =>
    have hwords : ∀ word ∈ quitWords, ofWord word.toList rest = .ok .quit := by
      simp only [quitWords, List.forall_mem_cons]
      exact ⟨rfl, rfl, List.forall_mem_nil _⟩
    exact hwords word h
  | fileMissing h => exact if_pos (by simpa using h)
  | unknown hempty hopen hcommand hhelp hquit =>
    have hmeans := means_ofWord word rest
    generalize ofWord word.toList rest = y at hmeans ⊢
    cases hmeans with
    | empty => exact absurd rfl hempty
    | command h => exact absurd h (hcommand _)
    | «open» => exact absurd rfl hopen
    | help h => exact absurd h hhelp
    | quit h => exact absurd h hquit
    | fileMissing => exact absurd rfl hopen
    | unknown => rfl

/-! ### By what is asked for -/

namespace Means

variable {rest : List Char} {word : String}

/-- Nothing is asked for just if there is no word. -/
theorem empty_iff : Means rest word (.ok .empty) ↔ word = "" := by
  constructor
  · rintro ⟨⟩
    rfl
  · rintro rfl
    exact .empty

/-- A command is asked for by its identifier or one of its words, whatever the rest. -/
theorem command_iff {c : Command} :
    Means rest word (.ok (.command c)) ↔ word ∈ c.id :: c.words := by
  constructor
  · rintro ⟨⟩
    assumption
  · exact .command

/-- A file is opened by one word and a rest, which is the path as it is spelled. -/
theorem open_iff {p : Path} :
    Means rest word (.ok (.open p)) ↔ word = "open" ∧ rest ≠ [] ∧ p = ⟨String.ofList rest⟩ := by
  constructor
  · rintro ⟨⟩
    exact ⟨rfl, ‹_›, rfl⟩
  · rintro ⟨rfl, hrest, rfl⟩
    exact .open hrest

/-- Help is asked for by either of its words. -/
theorem help_iff : Means rest word (.ok .help) ↔ word ∈ helpWords := by
  constructor
  · rintro ⟨⟩
    assumption
  · exact .help

/-- A session is ended by either of its words. -/
theorem quit_iff : Means rest word (.ok .quit) ↔ word ∈ quitWords := by
  constructor
  · rintro ⟨⟩
    assumption
  · exact .quit

/-- A line is an error if the path to open is missing or the word is none of those that are known. -/
theorem error_iff {e : InputError} :
    Means rest word (.error e) ↔
      word = "open" ∧ rest = [] ∧ e = .fileMissing ∨
        (word ≠ "" ∧ word ≠ "open" ∧ (∀ c : Command, word ∉ c.id :: c.words) ∧
          word ∉ helpWords ∧ word ∉ quitWords) ∧ e = .unknown word := by
  constructor
  · intro h
    cases h with
    | fileMissing hrest => exact .inl ⟨rfl, hrest, rfl⟩
    | unknown hempty hopen hcommand hhelp hquit =>
      exact .inr ⟨⟨hempty, hopen, hcommand, hhelp, hquit⟩, rfl⟩
  · rintro (⟨rfl, hrest, rfl⟩ | ⟨⟨hempty, hopen, hcommand, hhelp, hquit⟩, rfl⟩)
    · exact .fileMissing hrest
    · exact .unknown hempty hopen hcommand hhelp hquit

end Means

/-- A line asks for what its word means with its rest. -/
theorem parse_eq_iff {d : Division} {x : Except InputError Input} :
    parse d.line = x ↔ Means d.rest (String.ofList d.word) x := by
  have hparse : parse d.line = ofWord (String.ofList d.word).toList d.rest := by
    rw [parse, d.splitWord_line, String.toList_ofList]
  rw [hparse]
  exact ⟨fun h => h ▸ means_ofWord _ _, ofWord_of_means⟩

/-- A line has no word just if all of it is blank. -/
theorem word_eq_nil_iff (d : Division) : d.word = [] ↔ IsPadding d.line.toList := by
  rw [← Text.trim_eq_nil_iff, d.trim_line, List.append_eq_nil_iff]
  constructor
  · intro hword
    have hrest : d.rest = [] := by_contra fun hrest => d.word_of_rest hrest hword
    exact ⟨hword, if_pos hrest⟩
  · exact And.left

/-- Every line has a first word and a trimmed rest, in one way, and what it asks for depends on these
alone. A blank line asks for nothing; a command, help or the end of the session is asked for by its
words, whatever the rest is; a file is opened under the rest as it stands, and any other word is
refused. So blank characters around a line do not count, and neither do those in front of a path. -/
theorem parse_by_grammar :
    (∀ line, ∃ d : Division, d.line = line) ∧
      (∀ d d' : Division, d.line = d'.line → d.word = d'.word ∧ d.rest = d'.rest) ∧
      (∀ d d' : Division, d.word = d'.word → d.rest = d'.rest → parse d.line = parse d'.line) ∧
      (∀ d : Division,
        let word := String.ofList d.word
        (parse d.line = .ok .empty ↔ IsPadding d.line.toList) ∧
          (∀ p, parse d.line = .ok (.open p) ↔
            word = "open" ∧ d.rest ≠ [] ∧ p = ⟨String.ofList d.rest⟩) ∧
          (∀ c, parse d.line = .ok (.command c) ↔ word ∈ c.id :: c.words) ∧
          (parse d.line = .ok .help ↔ word ∈ helpWords) ∧
          (parse d.line = .ok .quit ↔ word ∈ quitWords) ∧
          ∀ e, parse d.line = .error e ↔
            word = "open" ∧ d.rest = [] ∧ e = .fileMissing ∨
              (word ≠ "" ∧ word ≠ "open" ∧ (∀ c : Command, word ∉ c.id :: c.words) ∧
                word ∉ helpWords ∧ word ∉ quitWords) ∧ e = .unknown word) ∧
      (∀ before gap p after : String, IsPadding before.toList → IsPadding gap.toList → gap ≠ "" →
        IsPadding after.toList → p ≠ "" → Trimmed p.toList →
          parse (before ++ "open" ++ gap ++ p ++ after) = .ok (.open ⟨p⟩)) ∧
      ∀ before line after : String, IsPadding before.toList → IsPadding after.toList →
        parse (before ++ line ++ after) = parse line := by
  refine ⟨Division.exists_line, fun d d' h => ?_, fun d d' hword hrest => ?_, fun d => ?_, ?_, ?_⟩
  · have hsplit := d.splitWord_line
    rw [h, d'.splitWord_line] at hsplit
    exact ⟨(congrArg Prod.fst hsplit).symm, (congrArg Prod.snd hsplit).symm⟩
  · rw [parse, parse, d.splitWord_line, d'.splitWord_line, hword, hrest]
  · have hword : String.ofList d.word = "" ↔ IsPadding d.line.toList := by
      rw [← word_eq_nil_iff, String.ofList_eq_empty_iff]
    exact ⟨parse_eq_iff.trans (Means.empty_iff.trans hword),
      fun _ => parse_eq_iff.trans Means.open_iff, fun _ => parse_eq_iff.trans Means.command_iff,
      parse_eq_iff.trans Means.help_iff, parse_eq_iff.trans Means.quit_iff,
      fun _ => parse_eq_iff.trans Means.error_iff⟩
  · intro before gap p after hbefore hgap hdivided hafter hp htrimmed
    have hrest : p.toList ≠ [] := by simpa using hp
    have hall : "open".toList.all (!Text.isBlank ·) = true := by decide
    have hword : ∀ c ∈ "open".toList, Text.isBlank c = false := fun c hc => by
      simpa using List.all_eq_true.mp hall c hc
    let d : Division := ⟨before.toList, "open".toList, gap.toList, p.toList, after.toList, hbefore,
      hword, hgap, htrimmed, hafter, fun _ => by decide, fun _ => by simpa using hdivided⟩
    have hline : d.line = before ++ "open" ++ gap ++ p ++ after := by
      refine String.toList_injective ?_
      rw [Division.line, String.toList_ofList]
      simp only [String.toList_append, d]
    have hopen : Means p.toList "open" (.ok (.open ⟨String.ofList p.toList⟩)) := .open hrest
    rw [String.ofList_toList] at hopen
    rw [← hline, parse_eq_iff]
    exact hopen
  · intro before line after hbefore hafter
    rw [parse, parse, String.toList_append, String.toList_append, Text.trim_append hbefore hafter]

/-- A path with blank characters inside is opened as it stands, whatever blank characters are around it,
and a command may have a rest. -/
theorem blankInside_kept :
    let before := "\u3000\t"
    let gap := "\u00A0 "
    let p := "specs/My \u2003Spec.tla"
    let after := "\u2028"
    (IsPadding before.toList ∧ IsPadding gap.toList ∧ gap ≠ "" ∧ IsPadding after.toList ∧ p ≠ "" ∧
      Trimmed p.toList) ∧
      parse (before ++ "open" ++ gap ++ p ++ after) = .ok (.open ⟨p⟩) ∧
      parse (before ++ "run it" ++ after) = .ok (.command .run) := by
  intro before gap p after
  obtain ⟨-, -, -, -, hopen, houter⟩ := parse_by_grammar
  have hbefore : IsPadding before.toList := by decide
  have hgap : IsPadding gap.toList := by decide
  have hafter : IsPadding after.toList := by decide
  have hlast : p.toList.getLast? = some 'a' := by decide
  have hp : Trimmed p.toList := ⟨by decide, fun c hc => by cases hlast.symm.trans hc; decide⟩
  refine ⟨⟨hbefore, hgap, by decide, hafter, by decide, hp⟩,
    hopen before gap p after hbefore hgap (by decide) hafter (by decide) hp, ?_⟩
  rw [houter before "run it" after hbefore hafter]
  decide

end Session.Input

end ModelCheck
