import ModelCheck.Text.Utf8

/-!
# Decoding piece by piece

A byte below 0x80 is a character of its own and ends whatever part of a character stands before it.
So bytes may be cut in front of such a byte and decoded on their own.
-/

namespace ModelCheck.Text

/-- The line feed as a byte. -/
abbrev lineFeed : UInt8 := 0x0A

/-- The carriage return as a byte. -/
abbrev carriageReturn : UInt8 := 0x0D

/-- What may come after a first byte is never below 0x80. -/
theorem low_of_lead {b : UInt8} {l : Lead} (h : lead? b = some l) : 0x80 ≤ l.low := by
  unfold lead? at h
  repeat' split at h
  all_goals cases h
  all_goals
    dsimp only
    decide

/-- The bytes that follow a first byte are sought no further than a byte below 0x80. -/
theorem follow_append {b : UInt8} (hb : b < 0x80) (rest : Bytes) (n : Nat) {low : UInt8}
    (hlow : 0x80 ≤ low) (high : UInt8) (value : Nat) (bytes : Bytes) :
    follow n low high value (bytes ++ b :: rest) =
      ((follow n low high value bytes).1, (follow n low high value bytes).2 ++ b :: rest) := by
  induction n generalizing low high value bytes with
  | zero => rfl
  | succ n ih =>
    cases bytes with
    | nil =>
      have hout : ¬(low ≤ b ∧ b ≤ high) := fun h =>
        absurd (UInt8.lt_of_lt_of_le hb (UInt8.le_trans hlow h.1)) (UInt8.lt_irrefl b)
      simp only [follow, List.nil_append, if_neg hout]
    | cons c more =>
      simp only [follow, List.cons_append]
      split
      · exact ih (UInt8.le_refl _) ..
      · rfl

/-- A byte below 128 is a character by itself. -/
theorem decode_cons_of_lt {b : UInt8} (hb : b < 0x80) (rest : Bytes) :
    decode (b :: rest) = Char.ofNat b.toNat :: decode rest := by
  rw [decode, if_pos hb]

/-- Bytes may be decoded apart where a byte below 0x80 begins. -/
theorem decode_append {b : UInt8} (hb : b < 0x80) (bytes rest : Bytes) :
    decode (bytes ++ b :: rest) = decode bytes ++ Char.ofNat b.toNat :: decode rest := by
  induction bytes using decode.induct with
  | case1 => rw [List.nil_append, decode_cons_of_lt hb, decode, List.nil_append]
  | case2 c more hc ih =>
    rw [List.cons_append, decode_cons_of_lt hc, decode_cons_of_lt hc, ih, List.cons_append]
  | case3 c more hc hnone ih =>
    rw [List.cons_append, decode, decode, if_neg hc, if_neg hc, hnone]
    simp only [ih, List.cons_append]
  | case4 c more hc l hlead read ih =>
    rw [List.cons_append, decode, decode, if_neg hc, if_neg hc, hlead]
    simp only [follow_append hb rest l.more (low_of_lead hlead), List.cons_append]
    rw [ih]

end ModelCheck.Text
