import ModelCheck.Proofs.Text.Scan
import ModelCheck.Text.Number

/-!
# Reading back what was written

A number is read from its decimal digits if it is below the bound that it is read with.
-/

namespace ModelCheck.Text

/-- Digits are read one after the other as the library reads them. -/
theorem readDigits_eq {s : List Char} (hs : ∀ c ∈ s, isAsciiDigit c = true) (value : Nat) :
    readDigits s value = some (Nat.ofDigitChars 10 s value) := by
  induction s generalizing value with
  | nil => rfl
  | cons c rest ih =>
    have hc : '0' ≤ c ∧ c ≤ '9' := by simpa [isAsciiDigit] using hs c List.mem_cons_self
    rw [readDigits, digitValue?, if_pos hc, Option.bind_some, Nat.ofDigitChars_cons]
    exact ih (fun d hd => hs d (List.mem_cons_of_mem c hd)) _

/-- Every number has a digit. -/
theorem decimal_ne_nil (n : Nat) : decimal n ≠ [] := Nat.toDigits_ne_nil

/-- A number is written with ASCII digits. -/
theorem isAsciiDigit_of_mem_decimal {n : Nat} {c : Char} (h : c ∈ decimal n) :
    isAsciiDigit c = true := by
  have hdigit : c.isDigit = true := Nat.isDigit_of_mem_toDigits (by decide) (by decide) h
  simpa [Char.isDigit, isAsciiDigit, Char.le_def] using hdigit

/-- Zeros in front of a number are digits too. -/
theorem isAsciiDigit_of_mem_padded {width n : Nat} {c : Char} (h : c ∈ (padded width n).toList) :
    isAsciiDigit c = true := by
  rw [padded, String.toList_ofList, List.mem_append] at h
  rcases h with hzero | hdigit
  · rw [List.eq_of_mem_replicate hzero]
    decide
  · exact isAsciiDigit_of_mem_decimal hdigit

/-- A padded number has a digit too. -/
theorem padded_ne_nil (width n : Nat) : (padded width n).toList ≠ [] := by
  rw [padded, String.toList_ofList]
  exact List.append_ne_nil_of_right_ne_nil _ (decimal_ne_nil n)

/-- The decimal digits of a number are its value. -/
theorem readDigits_decimal (n : Nat) : readDigits (decimal n) 0 = some n := by
  rw [readDigits_eq (fun c => isAsciiDigit_of_mem_decimal) 0, decimal,
    Nat.ofDigitChars_ten_toDigits]

/-- Only zero has a leading zero. -/
theorem eq_nil_of_decimal {n : Nat} {rest : List Char} (h : decimal n = '0' :: rest) :
    rest = [] := by
  induction n using Nat.strongRecOn generalizing rest with
  | ind n ih =>
    by_cases hn : n < 10
    · rw [decimal, Nat.toDigits_of_lt_base hn] at h
      exact (List.cons.inj h).2.symm
    · have hstep : decimal n = decimal (n / 10) ++ [(n % 10).digitChar] :=
        Nat.toDigits_of_base_le (by decide) (by omega)
      obtain ⟨d, front, hfront⟩ := List.exists_cons_of_ne_nil (decimal_ne_nil (n / 10))
      rw [hstep, hfront, List.cons_append] at h
      obtain rfl : d = '0' := (List.cons.inj h).1
      -- the digits in front of the last one are a zero, so there is one digit only
      obtain rfl := ih (n / 10) (by omega) hfront
      have hvalue := readDigits_decimal (n / 10)
      rw [hfront] at hvalue
      have hzero : n / 10 = 0 := (Option.some.inj hvalue).symm
      omega

/-- Nothing but ASCII digits is read. -/
theorem isAsciiDigit_of_readDigits {s : List Char} {value n : Nat}
    (h : readDigits s value = some n) : ∀ c ∈ s, isAsciiDigit c = true := by
  induction s generalizing value with
  | nil => nofun
  | cons c rest ih =>
    obtain ⟨d, hd, hrest⟩ := Option.bind_eq_some_iff.mp h
    have hc : isAsciiDigit c = true := by
      rw [digitValue?] at hd
      split at hd
      · next hdigit => simpa [isAsciiDigit] using hdigit
      · cases hd
    exact List.forall_mem_cons.mpr ⟨hc, ih hrest⟩

/-- A number is read from a nonempty text of ASCII digits, zeros in front included, if their value is
below the bound, and from no other text. -/
theorem readNat?_eq_some_iff {bound n : Nat} {s : List Char} :
    readNat? bound s = some n ↔
      IsRun isAsciiDigit s ∧ Nat.ofDigitChars 10 s 0 = n ∧ n < bound := by
  constructor
  · intro h
    rw [readNat?] at h
    split at h
    · cases h
    · next hs =>
      obtain ⟨hread, hlt⟩ := Option.filter_eq_some_iff.mp h
      have hdigits := isAsciiDigit_of_readDigits hread
      rw [readDigits_eq hdigits] at hread
      exact ⟨⟨by simpa using hs, hdigits⟩, Option.some.inj hread, by simpa using hlt⟩
  · rintro ⟨⟨hs, hdigits⟩, rfl, hlt⟩
    rw [readNat?, if_neg (by simpa using hs), readDigits_eq hdigits, Option.filter_some]
    simp [hlt]

/-- What is read is below the bound. -/
theorem lt_of_readNat? {bound n : Nat} {s : List Char} (h : readNat? bound s = some n) :
    n < bound := (readNat?_eq_some_iff.mp h).2.2

/-- A number is read from its decimal digits if it is below the bound. -/
theorem readNat?_decimal_eq (bound n : Nat) :
    readNat? bound (decimal n) = if n < bound then some n else none := by
  rw [readNat?, if_neg (by simpa using decimal_ne_nil n), readDigits_decimal, Option.filter_some]
  simp

/-- A number that fits is read back from its digits. -/
theorem readNat?_decimal {bound n : Nat} (h : n < bound) :
    readNat? bound (decimal n) = some n := by
  rw [readNat?_decimal_eq, if_pos h]

end ModelCheck.Text
