/-!
# Decoding bytes

Tool output is bytes. Well-formed UTF-8 decodes to its characters; every maximal
part of an ill-formed sequence that could have begun a character becomes one
U+FFFD, as does each byte that can begin none.
-/

namespace ModelCheck.Text

/-- Bytes as they are read from a stream or a file. -/
abbrev Bytes := List UInt8

/-- The bytes of a string. -/
def encode (s : String) : Bytes := s.toUTF8.toList

/-- What a first byte announces: how many bytes follow, the bits it contributes, and the range of
the byte that comes next. -/
structure Lead where
  more : Nat
  bits : Nat
  low : UInt8
  high : UInt8

/-- The announcement of a byte that may begin a character of two or more bytes. The ranges leave
out overlong forms, surrogates and values above U+10FFFF. -/
def lead? (b : UInt8) : Option Lead :=
  if 0xC2 ≤ b ∧ b ≤ 0xDF then some ⟨1, b.toNat % 32, 0x80, 0xBF⟩
  else if b = 0xE0 then some ⟨2, 0, 0xA0, 0xBF⟩
  else if b = 0xED then some ⟨2, 13, 0x80, 0x9F⟩
  else if 0xE1 ≤ b ∧ b ≤ 0xEF then some ⟨2, b.toNat % 16, 0x80, 0xBF⟩
  else if b = 0xF0 then some ⟨3, 0, 0x90, 0xBF⟩
  else if 0xF1 ≤ b ∧ b ≤ 0xF3 then some ⟨3, b.toNat % 8, 0x80, 0xBF⟩
  else if b = 0xF4 then some ⟨3, 4, 0x80, 0x8F⟩
  else none

/-- Reads the bytes that follow a first byte. The value is missing if one of them is out of range
or absent; the rest starts after the bytes that fit. -/
def follow : Nat → UInt8 → UInt8 → Nat → Bytes → Option Nat × Bytes
  | 0, _, _, value, rest => (some value, rest)
  | _ + 1, _, _, _, [] => (none, [])
  | n + 1, low, high, value, b :: rest =>
    if low ≤ b ∧ b ≤ high then follow n 0x80 0xBF (64 * value + b.toNat % 64) rest
    else (none, b :: rest)

/-- Reading on never lengthens the rest. -/
theorem follow_length (n : Nat) (low high : UInt8) (value : Nat) (bs : Bytes) :
    (follow n low high value bs).2.length ≤ bs.length := by
  induction n generalizing low high value bs with
  | zero => simp [follow]
  | succ n ih =>
    cases bs with
    | nil => simp [follow]
    | cons b rest =>
      simp only [follow]
      split
      · exact Nat.le_succ_of_le (ih _ _ _ _)
      · exact Nat.le_refl _

/-- The character that stands for bytes that are no character. -/
def replacement : Char := '\uFFFD'

/-- Decodes bytes, replacing what is not well-formed. -/
def decode : Bytes → List Char
  | [] => []
  | b :: rest =>
    if b < 0x80 then Char.ofNat b.toNat :: decode rest
    else
      match lead? b with
      | none => replacement :: decode rest
      | some l =>
        let read := follow l.more l.low l.high l.bits rest
        (read.1.elim replacement Char.ofNat) :: decode read.2
termination_by bs => bs.length
decreasing_by
  · simp
  · simp
  · have := follow_length l.more l.low l.high l.bits rest
    simp only [List.length_cons]
    omega

/-- Decodes bytes that must be well-formed. -/
def decodeStrict? (bs : Bytes) : Option String := String.fromUTF8? ⟨bs.toArray⟩

end ModelCheck.Text
