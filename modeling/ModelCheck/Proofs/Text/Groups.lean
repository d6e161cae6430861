import ModelCheck.Proofs.Text.ReadBack

/-!
# Numbers in groups

A number in groups has its decimal digits in order, with commas between them. Without the commas it is
read back, as long as it fits. The groups have three digits each, only the first may have fewer.
-/

namespace ModelCheck.Text

/-- Separating puts in commas and nothing else. -/
theorem mem_of_mem_separate {c : Char} {s : List Char} (h : c ∈ separate s) : c = ',' ∨ c ∈ s := by
  induction s using separate.induct with
  | case1 => exact .inr h
  | case2 => exact .inr h
  | case3 first rest hne hgroup ih =>
    rw [separate, if_pos hgroup] at h
    · simp only [List.mem_cons] at h ⊢
      rcases h with h | h | h
      · exact .inr (.inl h)
      · exact .inl h
      · exact (ih h).imp_right .inr
    · exact hne
  | case4 first rest hne hgroup ih =>
    rw [separate, if_neg hgroup] at h
    · simp only [List.mem_cons] at h ⊢
      rcases h with h | h
      · exact .inr (.inl h)
      · exact (ih h).imp_right .inr
    · exact hne

/-- No comma stands in front of the first digit. -/
theorem head?_separate (s : List Char) : (separate s).head? = s.head? := by
  cases s with
  | nil => rfl
  | cons c rest =>
    cases rest with
    | nil => rfl
    | cons d rest =>
      rw [separate]
      · split <;> rfl
      · simp

/-- Without its commas a text is what it was before they were put in. -/
theorem filter_separate {s : List Char} (h : ',' ∉ s) : (separate s).filter (· != ',') = s := by
  induction s using separate.induct with
  | case1 => rfl
  | case2 c =>
    have hc : c ≠ ',' := fun hc => h (by simp [hc])
    simp [separate, hc]
  | case3 c rest hne hgroup ih =>
    have hc : c ≠ ',' := fun hc => h (by simp [hc])
    have hrest : (separate rest).filter (· != ',') = rest := ih fun hmem => h (by simp [hmem])
    rw [separate, if_pos hgroup]
    · simp [hc, hrest]
    · exact hne
  | case4 c rest hne hgroup ih =>
    have hc : c ≠ ',' := fun hc => h (by simp [hc])
    have hrest : (separate rest).filter (· != ',') = rest := ih fun hmem => h (by simp [hmem])
    rw [separate, if_neg hgroup]
    · simp [hc, hrest]
    · exact hne

/-- A character in the first range is in the ranges. -/
theorem contains_of_first {low high : Nat} {c : Char} (hlow : low ≤ c.toNat) (hhigh : c.toNat ≤ high)
    (rest : CodeRanges) : CodeRanges.contains ((low, high) :: rest) c = true := by
  rw [CodeRanges.contains, if_neg (Nat.not_lt.mpr hlow), decide_eq_true hhigh, Bool.true_or]

/-- The ASCII digits come first among the digits of all scripts. -/
theorem isDigit_of_isAsciiDigit {c : Char} (h : isAsciiDigit c = true) : isDigit c = true := by
  obtain ⟨hlow, hhigh⟩ : '0' ≤ c ∧ c ≤ '9' := by simpa [isAsciiDigit] using h
  exact contains_of_first (Char.le_def.mp hlow) (Char.le_def.mp hhigh) _

/-- A decimal numeral is a run of digits, since the ASCII digits are among those of all scripts. -/
theorem isRun_decimal (n : Nat) : IsRun isDigit (decimal n) :=
  ⟨decimal_ne_nil n, fun _ h => isDigit_of_isAsciiDigit (isAsciiDigit_of_mem_decimal h)⟩

/-- A decimal numeral has no comma. -/
theorem comma_not_mem_decimal (n : Nat) : ',' ∉ decimal n := by
  intro h
  exact absurd (isAsciiDigit_of_mem_decimal h) (by decide)

/-- The characters of a number in groups. -/
def grouped (n : Nat) : List Char := (groupDigits n).toList

/-- The characters of a number in groups are its digits with commas in between. -/
theorem grouped_eq (n : Nat) : grouped n = separate (decimal n) := by
  rw [grouped, groupDigits, String.toList_ofList]

/-- A number in groups begins with one of its digits. -/
theorem exists_grouped (n : Nat) :
    ∃ (c : Char) (rest : List Char), grouped n = c :: rest ∧ isAsciiDigit c = true := by
  obtain ⟨c, digits, hdecimal⟩ := List.exists_cons_of_ne_nil (decimal_ne_nil n)
  have hhead : (grouped n).head? = some c := by
    rw [grouped_eq, head?_separate, hdecimal, List.head?_cons]
  have hdigit : isAsciiDigit c = true := by
    refine isAsciiDigit_of_mem_decimal (n := n) ?_
    rw [hdecimal]
    exact List.mem_cons_self
  obtain ⟨rest, hrest⟩ := List.head?_eq_some_iff.mp hhead
  exact ⟨c, rest, hrest, hdigit⟩

/-- Each character of a number in groups is a digit or a comma. -/
theorem mem_grouped {n : Nat} {c : Char} (h : c ∈ grouped n) : isAsciiDigit c = true ∨ c = ',' := by
  rw [grouped_eq] at h
  exact (mem_of_mem_separate h).symm.imp_left isAsciiDigit_of_mem_decimal

/-- Without its commas a number in groups is its decimal digits. -/
theorem filter_grouped (n : Nat) : (grouped n).filter (· != ',') = decimal n := by
  rw [grouped_eq, filter_separate (comma_not_mem_decimal n)]

/-- Reading undoes the grouping of digits, for just the numbers that fit. -/
theorem readGrouped?_grouped (n : Nat) :
    readGrouped? (grouped n) = if n < 18446744073709551616 then some n else none := by
  rw [readGrouped?, filter_grouped, readNat64?, readNat?_decimal_eq]

/-- A number is read as well without any groups, if it fits. -/
theorem readGrouped?_decimal (n : Nat) :
    readGrouped? (decimal n) = if n < 18446744073709551616 then some n else none := by
  have hplain : (decimal n).filter (· != ',') = decimal n := by
    refine List.filter_eq_self.mpr fun c hc => ?_
    have hne : c ≠ ',' := fun hcomma => comma_not_mem_decimal n (hcomma ▸ hc)
    simpa using hne
  rw [readGrouped?, hplain, readNat64?, readNat?_decimal_eq]

/-! ### The groups -/

/-- Whether digits are the decimal representation of a number: they have its value, and there is no zero
in front unless it is the only digit. -/
structure IsDecimal (digits : List Char) (n : Nat) : Prop where
  run : IsRun isAsciiDigit digits
  value : Nat.ofDigitChars 10 digits 0 = n
  leading : ∀ rest, digits = '0' :: rest → rest = []

/-- The digits that are written for a number are its decimal representation. -/
theorem isDecimal_decimal (n : Nat) : IsDecimal (decimal n) n where
  run := ⟨decimal_ne_nil n, fun _ => isAsciiDigit_of_mem_decimal⟩
  value := Nat.ofDigitChars_ten_toDigits
  leading _ := eq_nil_of_decimal

/-- No comma stands behind the last digit. -/
theorem getLast?_separate (s : List Char) : (separate s).getLast? = s.getLast? := by
  induction s using separate.induct with
  | case1 => rfl
  | case2 => rfl
  | case3 c rest hne hgroup ih =>
    rw [separate, if_pos hgroup]
    · rw [List.getLast?_cons, List.getLast?_cons, ih, List.getLast?_cons]
      cases rest with
      | nil => exact absurd rfl hne
      | cons d rest => simp [List.getLast?_cons]
    · exact hne
  | case4 c rest hne hgroup ih =>
    rw [separate, if_neg hgroup]
    · rw [List.getLast?_cons, List.getLast?_cons, ih]
    · exact hne

/-- Between the commas stand the digits, in groups of three. The first group has what the others leave
over, but not nothing. -/
theorem exists_groups {c : Char} {rest : List Char} (h : ',' ∉ c :: rest) :
    ∃ first others, (separate (c :: rest)).splitOn ',' = first :: others ∧
      first ++ others.flatten = c :: rest ∧ first.length = rest.length % 3 + 1 ∧
      ∀ group ∈ others, group.length = 3 := by
  induction rest generalizing c with
  | nil => exact ⟨[c], [], List.splitOn_eq_singleton h, rfl, rfl, nofun⟩
  | cons d rest ih =>
    have hc : (c == ',') = false := by
      simpa using fun hc : c = ',' => h (hc ▸ List.mem_cons_self)
    obtain ⟨first, others, hsplit, hjoined, hfirst, hothers⟩ :=
      ih fun hmem => h (List.mem_cons_of_mem c hmem)
    by_cases hgroup : (d :: rest).length % 3 = 0
    · -- the digits behind the comma are in full groups, so the next one to the left is the first again
      have hfull : first.length = 3 := by
        rw [List.length_cons] at hgroup
        omega
      refine ⟨[c], first :: others, ?_, congrArg (c :: ·) hjoined, ?_, ?_⟩
      · rw [separate, if_pos hgroup]
        · simp [List.splitOn_cons_eq_if_modifyHead, hc, hsplit]
        · simp
      · rw [hgroup]
        rfl
      · exact List.forall_mem_cons.mpr ⟨hfull, hothers⟩
    · refine ⟨c :: first, others, ?_, congrArg (c :: ·) hjoined, ?_, hothers⟩
      · rw [separate, if_neg hgroup]
        · simp [List.splitOn_cons_eq_if_modifyHead, hc, hsplit]
        · simp
      · simp only [List.length_cons] at hgroup ⊢
        omega

/-- Each group of a number in groups has three digits, only the first may have fewer. -/
theorem exists_groups_grouped (n : Nat) :
    ∃ first others, (grouped n).splitOn ',' = first :: others ∧
      (1 ≤ first.length ∧ first.length ≤ 3) ∧ (∀ group ∈ others, group.length = 3) ∧
      ∀ group ∈ first :: others, ∀ c ∈ group, isAsciiDigit c = true := by
  obtain ⟨c, rest, hdecimal⟩ := List.exists_cons_of_ne_nil (decimal_ne_nil n)
  have hcomma : ',' ∉ c :: rest := hdecimal ▸ comma_not_mem_decimal n
  obtain ⟨first, others, hsplit, hjoined, hfirst, hothers⟩ := exists_groups hcomma
  have hdigits : ∀ group ∈ first :: others, ∀ d ∈ group, isAsciiDigit d = true := by
    intro group hgroup d hd
    have hmem : d ∈ decimal n := by
      rw [hdecimal, ← hjoined, ← List.flatten_cons]
      exact List.mem_flatten_of_mem hgroup hd
    exact isAsciiDigit_of_mem_decimal hmem
  refine ⟨first, others, ?_, ?_, hothers, hdigits⟩
  · rw [grouped_eq, hdecimal, hsplit]
  · omega

/-- No comma stands in front of the first digit. -/
theorem head?_grouped_ne (n : Nat) : (grouped n).head? ≠ some ',' := by
  rw [grouped_eq, head?_separate]
  exact fun h => comma_not_mem_decimal n (List.mem_of_head? h)

/-- No comma stands behind the last digit. -/
theorem getLast?_grouped_ne (n : Nat) : (grouped n).getLast? ≠ some ',' := by
  rw [grouped_eq, getLast?_separate]
  exact fun h => comma_not_mem_decimal n (List.mem_of_getLast? h)

/-- The digits of a number in groups tell which number it is. -/
theorem groupDigits_injective : Function.Injective groupDigits := by
  intro m n h
  have hgrouped : grouped m = grouped n := congrArg String.toList h
  have hdecimal : decimal m = decimal n := by
    rw [← filter_grouped, hgrouped, filter_grouped]
  calc
    m = Nat.ofDigitChars 10 (decimal m) 0 := (isDecimal_decimal m).value.symm
    _ = Nat.ofDigitChars 10 (decimal n) 0 := by rw [hdecimal]
    _ = n := (isDecimal_decimal n).value

/-- A number in groups is, without its commas, the decimal representation of the number. Split at the
commas it gives a first group of one to three digits, and all other groups have three, so there is a comma
neither at its front nor at its end. Two different numbers are never the same in groups. -/
theorem groups_of_three :
    (∀ n, let text := (groupDigits n).toList
      text.filter (· != ',') = decimal n ∧ IsDecimal (decimal n) n ∧
        (∃ first others, text.splitOn ',' = first :: others ∧
          (1 ≤ first.length ∧ first.length ≤ 3) ∧ (∀ group ∈ others, group.length = 3) ∧
          ∀ group ∈ first :: others, ∀ c ∈ group, isAsciiDigit c = true) ∧
        text.head? ≠ some ',' ∧ text.getLast? ≠ some ',') ∧
      Function.Injective groupDigits := by
  refine ⟨fun n => ?_, groupDigits_injective⟩
  exact ⟨filter_grouped n, isDecimal_decimal n, exists_groups_grouped n, head?_grouped_ne n,
    getLast?_grouped_ne n⟩

/-- The largest count begins with a group of two digits, and its last group has three. -/
theorem largest_in_groups :
    (groupDigits 18446744073709551615).toList.splitOn ',' =
        ["18", "446", "744", "073", "709", "551", "615"].map String.toList ∧
      "18".toList.length ≤ 3 ∧ "615".toList.length = 3 := by
  obtain ⟨-, -, ⟨first, others, hsplit, ⟨-, hfirst⟩, hothers, -⟩, -⟩ :=
    groups_of_three.1 18446744073709551615
  have hgroups : (groupDigits 18446744073709551615).toList.splitOn ',' =
      ["18", "446", "744", "073", "709", "551", "615"].map String.toList := by decide
  obtain ⟨rfl, rfl⟩ := List.cons.inj (hsplit.symm.trans hgroups)
  exact ⟨hgroups, hfirst, hothers _ (by simp)⟩

end ModelCheck.Text
