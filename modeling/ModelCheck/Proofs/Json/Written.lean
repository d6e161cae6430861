import Mathlib.Data.List.TakeWhile
import ModelCheck.Diagnostic.Jsonl
import ModelCheck.Proofs.Json.Reader
import ModelCheck.Proofs.Text.ReadBack

/-!
# Reading written JSON back

What is written as a string, a number, an array or an object is read as that, wherever it stands. A
text has its tokens and its value independently of what comes behind it, so texts that are put together
are read as what their parts are read as.
-/

namespace ModelCheck.Json

/-! ### Strings -/

/-- A hexadecimal digit is read as the number that it was written for. -/
theorem hexValue?_hexDigit {n : Nat} (h : n < 16) : hexValue? (Jsonl.hexDigit n) = some n := by
  have hall : ∀ n < 16, hexValue? (Jsonl.hexDigit n) = some n := by decide
  exact hall n h

/-- The numbered escape of a control character. -/
theorem codeUnit?_hexDigits {n : Nat} (h : n < 32) :
    codeUnit? '0' '0' (Jsonl.hexDigit (n / 16)) (Jsonl.hexDigit (n % 16)) = some n := by
  have hzero : hexValue? '0' = some 0 := by decide
  have hhigh := hexValue?_hexDigit (n := n / 16) (by omega)
  have hlow := hexValue?_hexDigit (n := n % 16) (by omega)
  simp only [codeUnit?, hzero, hhigh, hlow, Option.bind_eq_bind, Option.bind_some]
  congr 1
  omega

/-- A character is read from how it is written. -/
theorem character?_escape (c : Char) (rest : List Char) :
    character? (Jsonl.escape c ++ rest) = some (c, rest) := by
  unfold Jsonl.escape
  split
  · subst_vars; rfl
  split
  · subst_vars; rfl
  split
  · subst_vars; rfl
  split
  · subst_vars; rfl
  split
  · subst_vars; rfl
  split
  · subst_vars; rfl
  split
  · subst_vars; rfl
  next hquote hbackslash _ _ _ _ _ =>
    split
    · next hcontrol =>
      have hunit := codeUnit?_hexDigits hcontrol
      have hchar : Char.ofNat c.toNat = c := Char.ofNat_toNat c
      simp only [List.cons_append, List.nil_append, character?, hunit, Option.bind_some]
      unfold ofCodeUnit?
      rw [if_neg (by omega), if_neg (by omega), hchar]
    · next hcontrol =>
      rw [List.singleton_append, character?.eq_def]
      simp_all

/-- No character is written as something that begins with a quotation mark. -/
theorem head?_escape (c : Char) (rest : List Char) :
    (Jsonl.escape c ++ rest).head? ≠ some '"' := by
  unfold Jsonl.escape
  repeat' split
  all_goals simp_all

/-- A text is read from how its characters are written, up to a quotation mark. -/
theorem string?_escape (s rest : List Char) :
    string? (s.flatMap Jsonl.escape ++ '"' :: rest) = some (s, rest) := by
  induction s with
  | nil =>
    rw [List.flatMap_nil, List.nil_append, string?, if_pos List.head?_cons, List.tail_cons]
  | cons c s ih =>
    rw [List.flatMap_cons, List.append_assoc,
      string?_of_character? (head?_escape c _) (character?_escape c _), ih]
    rfl

/-! ### Numbers -/

/-- A decimal numeral consists of digits. -/
theorem isDigit_of_mem_decimal {n : Nat} {c : Char} (h : c ∈ Text.decimal n) : c.isDigit = true :=
  Nat.isDigit_of_mem_toDigits (by decide) (by decide) h

/-- A digit is neither blank nor a sign nor a quotation mark, so a word or a number goes on with it. -/
theorem isPlain_of_isDigit {c : Char} (h : c.isDigit = true) : isPlain c = true := by
  have hblank : isBlank c = false := by
    simp only [isBlank, Bool.or_eq_false_iff, decide_eq_false_iff_not]
    refine ⟨⟨⟨?_, ?_⟩, ?_⟩, ?_⟩ <;> rintro rfl <;> exact absurd h (by decide)
  have hsign : sign? c = none := by
    unfold sign?
    split
    case h_7 => rfl
    all_goals exact absurd h (by decide)
  have hquote : c ≠ '"' := by
    rintro rfl
    exact absurd h (by decide)
  simp [isPlain, hblank, hsign, hquote]

/-- A decimal numeral is read up to its end as digits. -/
theorem behindDigits?_decimal (n : Nat) : behindDigits? (Text.decimal n) = some [] := by
  have hdigits : ∀ c ∈ Text.decimal n, c.isDigit = true := fun c => isDigit_of_mem_decimal
  have htake : (Text.decimal n).takeWhile Char.isDigit = Text.decimal n :=
    List.takeWhile_eq_self_iff.mpr hdigits
  have hdrop : (Text.decimal n).dropWhile Char.isDigit = [] := List.dropWhile_eq_nil_iff.mpr hdigits
  rw [behindDigits?, htake, hdrop, if_neg (by simpa using Text.decimal_ne_nil n)]

/-- A number is spelled by its decimal digits. -/
theorem isNumber_decimal (n : Nat) : isNumber (Text.decimal n) = true := by
  have hminus : behindMinus (Text.decimal n) = Text.decimal n := by
    unfold behindMinus
    split
    · next rest hrest =>
      have hdigit : '-'.isDigit = true := isDigit_of_mem_decimal (n := n) (by simp [hrest])
      exact absurd hdigit (by decide)
    · rfl
  have hwhole : behindWhole? (Text.decimal n) = some [] := by
    unfold behindWhole?
    split
    · next rest hrest => rw [Text.eq_nil_of_decimal hrest]
    · exact behindDigits?_decimal n
  rw [isNumber, hminus, hwhole]
  rfl

/-- A decimal numeral is a number and none of the three words. -/
theorem plain?_decimal (n : Nat) : plain? (Text.decimal n) = some (.number (Text.decimal n)) := by
  have hword : ∀ word : List Char, (∃ c ∈ word, c.isDigit = false) → Text.decimal n ≠ word := by
    rintro word ⟨c, hc, hnot⟩ rfl
    simp [isDigit_of_mem_decimal hc] at hnot
  rw [plain?, if_neg (hword _ ⟨'n', by decide, by decide⟩),
    if_neg (hword _ ⟨'t', by decide, by decide⟩), if_neg (hword _ ⟨'f', by decide, by decide⟩),
    if_pos (isNumber_decimal n)]

/-! ### Tokens -/

/-- Whether a word or a number would end in front of a text. -/
def Ends (rest : List Char) : Prop := ∀ c ∈ rest.head?, isPlain c = false

/-- Whether a text has tokens of its own, whatever comes behind it. -/
def Lexes (text : List Char) (ts : List Token) : Prop :=
  ∀ rest, Ends rest → tokens? (text ++ rest) = (tokens? rest).map (ts ++ ·)

/-- A sign ends the word or the number in front of it. -/
theorem isPlain_of_sign {c : Char} {t : Token} (h : sign? c = some t) : isPlain c = false := by
  simp [isPlain, h]

/-- A sign is not blank. -/
theorem isBlank_of_sign {c : Char} {t : Token} (h : sign? c = some t) : isBlank c = false := by
  unfold sign? at h
  split at h
  all_goals first | rfl | cases h

namespace Lexes

variable {a b text : List Char} {ts us : List Token}

/-- No text has no tokens. -/
theorem nil : Lexes [] [] := by
  intro rest _
  rw [List.nil_append]
  cases tokens? rest <;> rfl

/-- A sign is a token of its own, whatever comes behind it. -/
theorem sign {c : Char} {t : Token} (hc : sign? c = some t) (h : Lexes text ts) :
    Lexes (c :: text) (t :: ts) := by
  intro rest hrest
  have hblank := isBlank_of_sign hc
  rw [List.cons_append, tokens?, if_neg (by simp [hblank])]
  simp only [hc, h rest hrest, Option.map_map]
  rfl

/-- Texts may be put together if the second one begins with a sign. -/
theorem append {c : Char} {t : Token} (ha : Lexes a ts) (hc : sign? c = some t)
    (hb : Lexes (c :: b) us) : Lexes (a ++ c :: b) (ts ++ us) := by
  intro rest hrest
  have hends : Ends (c :: b ++ rest) := by
    intro d hd
    obtain rfl : c = d := by simpa using hd
    exact isPlain_of_sign hc
  rw [List.append_assoc, ha _ hends, hb rest hrest, Option.map_map]
  congr 1
  funext more
  simp

/-- A quoted text is one token, with the text that was quoted. -/
theorem string (s : String) : Lexes (Jsonl.quote s) [.scalar (.string s)] := by
  intro rest _
  have hread := string?_escape s.toList rest
  have htext : Jsonl.quote s ++ rest = '"' :: (s.toList.flatMap Jsonl.escape ++ '"' :: rest) := by
    simp [Jsonl.quote]
  rw [htext, tokens?, if_neg (by decide)]
  have hsign : sign? '"' = none := rfl
  simp only [hsign, if_true]
  split
  · next hnone => simp [hread] at hnone
  · next content more hsome =>
    obtain ⟨rfl, rfl⟩ := Prod.mk.inj (Option.some.inj (hread.symm.trans hsome))
    rw [String.ofList_toList]
    rfl

/-- A decimal numeral is one token where something comes behind it that ends a number. -/
theorem decimal (n : Nat) : Lexes (Text.decimal n) [.scalar (.number (Text.decimal n))] := by
  intro rest hrest
  obtain ⟨c, digits, hdigits⟩ := List.exists_cons_of_ne_nil (Text.decimal_ne_nil n)
  have hplain : ∀ d ∈ c :: digits, isPlain d = true := by
    intro d hd
    exact isPlain_of_isDigit (isDigit_of_mem_decimal (hdigits ▸ hd))
  obtain ⟨hfirst, hdigitsPlain⟩ := List.forall_mem_cons.mp hplain
  have hstop : rest.takeWhile isPlain = [] ∧ rest.dropWhile isPlain = rest := by
    cases rest with
    | nil => exact ⟨rfl, rfl⟩
    | cons d rest =>
      have hd := hrest d rfl
      simp [hd]
  have htake : (digits ++ rest).takeWhile isPlain = digits := by
    rw [List.takeWhile_append_of_pos hdigitsPlain, hstop.1, List.append_nil]
  have hdrop : (digits ++ rest).dropWhile isPlain = rest := by
    rw [List.dropWhile_append_of_pos hdigitsPlain, hstop.2]
  have hvalue := plain?_decimal n
  simp only [isPlain, Bool.and_eq_true, Bool.not_eq_true', Option.isNone_iff_eq_none,
    bne_iff_ne] at hfirst
  obtain ⟨⟨hblank, hsign⟩, hquote⟩ := hfirst
  rw [hdigits] at hvalue ⊢
  rw [List.cons_append, tokens?, if_neg (by simp [hblank])]
  simp only [hsign, if_neg hquote, htake, hdrop, hvalue, Option.bind_some]
  rfl

end Lexes

/-! ### Values -/

/-- Whether tokens are read as a value, wherever one is due. -/
def Reads (ts : List Token) (v : Json) : Prop :=
  ∀ rest layers, value? (ts ++ rest) layers = behind? v rest layers

/-- A token that is a value by itself is read as that value. -/
theorem Reads.scalar (v : Json) : Reads [.scalar v] v := fun _ _ => rfl

/-- The end of an array is no value. -/
theorem Reads.ne_closeArray {ts : List Token} {v : Json} (h : Reads ts v) (rest more : List Token) :
    ts ++ rest ≠ .closeArray :: more := by
  intro hclose
  have hread := h [] []
  rw [List.append_nil] at hread
  cases ts with
  | nil => cases hread
  | cons t ts =>
    obtain ⟨rfl, -⟩ := List.cons.inj hclose
    cases hread

/-- Whether a text is read as a value, wherever it stands. -/
def Written (text : List Char) (v : Json) : Prop := ∃ ts, Lexes text ts ∧ Reads ts v

namespace Written

/-- A quoted text is read as the text that was quoted. -/
theorem string (s : String) : Written (Jsonl.quote s) (.string s) :=
  ⟨_, .string s, .scalar _⟩

/-- A decimal numeral is read as a number, as it is spelled. -/
theorem decimal (n : Nat) : Written (Text.decimal n) (.number (Text.decimal n)) :=
  ⟨_, .decimal n, .scalar _⟩

/-- A line with a value that is written on it is read as that value. -/
theorem parse?_lineFeed {text : List Char} {v : Json} (h : Written text v) :
    parse? (text ++ ['\n']) = some v := by
  obtain ⟨ts, hlexes, hreads⟩ := h
  have hfeed : tokens? ['\n'] = some [] := by
    rw [tokens?, if_pos (by decide), tokens?]
  have hends : Ends ['\n'] := by
    intro c hc
    obtain rfl : '\n' = c := by simpa using hc
    decide
  have hvalue := hreads [] []
  rw [List.append_nil] at hvalue
  rw [parse?, hlexes _ hends, hfeed, Option.map_some, Option.bind_some, List.append_nil, hvalue]
  rfl

/-! #### Arrays -/

/-- The items of an array up to its end, behind those that have been read. -/
theorem items {item : List Char} {v : Json} {texts : List (List Char)} {vs : List Json}
    (hitem : Written item v) (h : List.Forall₂ Written texts vs) :
    ∃ ts, (∀ more rest, ts ++ rest ≠ .closeArray :: more) ∧
      Lexes (Jsonl.commaSeparated (item :: texts) ++ [']']) ts ∧
      ∀ before rest layers, value? (ts ++ rest) (.array before :: layers) =
        behind? (.array (before.reverse ++ v :: vs)) rest layers := by
  induction h generalizing item v with
  | nil =>
    obtain ⟨ts, hlexes, hreads⟩ := hitem
    refine ⟨ts ++ [.closeArray], fun more rest => ?_, hlexes.append rfl (.sign rfl .nil), ?_⟩
    · rw [List.append_assoc]
      exact hreads.ne_closeArray _ _
    · intro before rest layers
      rw [List.append_assoc, hreads, List.singleton_append, behind?, List.reverse_cons]
  | cons hnext _ ih =>
    obtain ⟨ts, hlexes, hreads⟩ := hitem
    obtain ⟨us, -, hlexes', hreads'⟩ := ih hnext
    refine ⟨ts ++ .comma :: us, fun more rest => ?_, ?_, ?_⟩
    · rw [List.append_assoc]
      exact hreads.ne_closeArray _ _
    · rw [Jsonl.commaSeparated, List.append_assoc]
      · exact hlexes.append rfl (.sign rfl hlexes')
      · simp
    · intro before rest layers
      rw [List.append_assoc, hreads, List.cons_append, behind?, hreads', List.reverse_cons,
        List.append_assoc]
      rfl

/-- An array is read element by element, in order. -/
theorem array {texts : List (List Char)} {vs : List Json} (h : List.Forall₂ Written texts vs) :
    Written (Jsonl.array texts) (.array vs) := by
  cases h with
  | nil => exact ⟨[.openArray, .closeArray], .sign rfl (.sign rfl .nil), fun _ _ => rfl⟩
  | cons hitem hrest =>
    obtain ⟨ts, hclose, hlexes, hreads⟩ := items hitem hrest
    refine ⟨.openArray :: ts, .sign rfl hlexes, fun rest layers => ?_⟩
    rw [List.cons_append, value?, hreads]
    · rfl
    · intro more hmore
      exact hclose more rest hmore

/-! #### Objects -/

/-- Whether a field is written with its key and with the text of its value. -/
structure WrittenField (field : String × List Char) (read : String × Json) : Prop where
  key : field.1 = read.1
  value : Written field.2 read.2

/-- A field as it is written. -/
def fieldText (field : String × List Char) : List Char := Jsonl.quote field.1 ++ ':' :: field.2

/-- The fields of an object up to its end, behind those that have been read and the key of the first. -/
theorem fields {field : String × List Char} {read : String × Json}
    {others : List (String × List Char)} {reads : List (String × Json)}
    (hfield : WrittenField field read) (h : List.Forall₂ WrittenField others reads) :
    ∃ ts, Lexes (Jsonl.commaSeparated ((field :: others).map fieldText) ++ ['\x7d'])
        (.scalar (.string read.1) :: .colon :: ts) ∧
      ∀ before rest layers, value? (ts ++ rest) (.object before read.1 :: layers) =
        behind? (.object (before.reverse ++ read :: reads)) rest layers := by
  induction h generalizing field read with
  | nil =>
    obtain ⟨text, value⟩ := field
    obtain ⟨key, v⟩ := read
    obtain ⟨rfl, ts, hlexes, hreads⟩ := hfield
    refine ⟨ts ++ [.closeObject], ?_, fun before rest layers => ?_⟩
    · have hvalue : Lexes (value ++ ['\x7d']) (ts ++ [.closeObject]) :=
        hlexes.append rfl (.sign rfl .nil)
      have hfield : Lexes (Jsonl.quote text ++ ':' :: (value ++ ['\x7d'])) _ :=
        (Lexes.string text).append rfl (.sign rfl hvalue)
      simpa [fieldText, Jsonl.commaSeparated] using hfield
    · rw [List.append_assoc, hreads, List.singleton_append, behind?, List.reverse_cons]
  | @cons _ next _ _ hnext _ ih =>
    obtain ⟨text, value⟩ := field
    obtain ⟨key, v⟩ := read
    obtain ⟨rfl, ts, hlexes, hreads⟩ := hfield
    obtain ⟨us, hlexes', hreads'⟩ := ih hnext
    refine ⟨ts ++ .comma :: .scalar (.string next.1) :: .colon :: us, ?_,
      fun before rest layers => ?_⟩
    · have hvalue : Lexes (value ++ ',' :: _) (ts ++ .comma :: _) :=
        hlexes.append rfl (.sign rfl hlexes')
      have hfield : Lexes (Jsonl.quote text ++ ':' :: (value ++ ',' :: _)) _ :=
        (Lexes.string text).append rfl (.sign rfl hvalue)
      simpa [fieldText, Jsonl.commaSeparated] using hfield
    · rw [List.append_assoc, hreads, List.cons_append, List.cons_append, List.cons_append, behind?,
        hreads', List.reverse_cons, List.append_assoc]
      rfl

/-- An object is read field by field, in order, if its keys are quoted and its values can be read. -/
theorem object {fields : List (String × List Char)} {reads : List (String × Json)}
    (h : List.Forall₂ WrittenField fields reads) :
    Written (Jsonl.object fields) (.object reads) := by
  cases h with
  | nil => exact ⟨[.openObject, .closeObject], .sign rfl (.sign rfl .nil), fun _ _ => rfl⟩
  | cons hfield hrest =>
    obtain ⟨ts, hlexes, hreads⟩ := Written.fields hfield hrest
    refine ⟨.openObject :: _, .sign rfl hlexes, fun rest layers => ?_⟩
    rw [List.cons_append, List.cons_append, List.cons_append, value?, hreads]
    rfl

end Written

end ModelCheck.Json
