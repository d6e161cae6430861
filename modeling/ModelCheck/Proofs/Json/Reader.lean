/-!
# Reading JSON

A reader for the texts of RFC 8259. A text is cut into tokens, with any blank characters between them,
and the tokens are read from left to right into a value. A number stands for itself as it is spelled.
-/

namespace ModelCheck

/-- A value of JSON. The fields of an object are in the order in which they are written. -/
inductive Json where
  | null
  | bool (b : Bool)
  | number (spelling : List Char)
  | string (s : String)
  | array (items : List Json)
  | object (fields : List (String × Json))

namespace Json

/-! ### Characters of strings -/

/-- The value of a hexadecimal digit. -/
def hexValue? (c : Char) : Option Nat :=
  if '0' ≤ c ∧ c ≤ '9' then some (c.toNat - '0'.toNat)
  else if 'a' ≤ c ∧ c ≤ 'f' then some (c.toNat - 'a'.toNat + 10)
  else if 'A' ≤ c ∧ c ≤ 'F' then some (c.toNat - 'A'.toNat + 10)
  else none

/-- The number that four hexadecimal digits spell. -/
def codeUnit? (a b c d : Char) : Option Nat := do
  let a ← hexValue? a
  let b ← hexValue? b
  let c ← hexValue? c
  let d ← hexValue? d
  some (((a * 16 + b) * 16 + c) * 16 + d)

/-- The character that a numbered escape stands for, and the rest. The first half of a surrogate pair
needs the second half right behind it, which stands nowhere else. -/
def ofCodeUnit? (n : Nat) (rest : List Char) : Option (Char × List Char) :=
  if 0xD800 ≤ n ∧ n < 0xDC00 then
    match rest with
    | '\\' :: 'u' :: a :: b :: c :: d :: rest =>
      (codeUnit? a b c d).bind fun second =>
        if 0xDC00 ≤ second ∧ second < 0xE000 then
          some (Char.ofNat (0x10000 + (n - 0xD800) * 0x400 + (second - 0xDC00)), rest)
        else none
    | _ => none
  else if 0xDC00 ≤ n ∧ n < 0xE000 then none
  else some (Char.ofNat n, rest)

/-- What a character stands for behind a backslash. -/
def escaped? : Char → Option Char
  | '"' => some '"'
  | '\\' => some '\\'
  | '/' => some '/'
  | 'b' => some '\x08'
  | 'f' => some '\x0c'
  | 'n' => some '\n'
  | 'r' => some '\r'
  | 't' => some '\t'
  | _ => none

/-- Reads a character of a string, escaped or not. Control characters have to be escaped. -/
def character? : List Char → Option (Char × List Char)
  | [] => none
  | '\\' :: 'u' :: a :: b :: c :: d :: rest => (codeUnit? a b c d).bind fun n => ofCodeUnit? n rest
  | '\\' :: c :: rest => (escaped? c).map fun e => (e, rest)
  | c :: rest => if c = '"' ∨ c = '\\' ∨ c.toNat < 0x20 then none else some (c, rest)

/-- A character that is read from a code unit, or from two of them, leaves no more text than there was.
-/
theorem ofCodeUnit?_length {n : Nat} {s rest : List Char} {c : Char}
    (h : ofCodeUnit? n s = some (c, rest)) : rest.length ≤ s.length := by
  unfold ofCodeUnit? at h
  split at h
  · split at h
    · obtain ⟨second, -, h⟩ := Option.bind_eq_some_iff.mp h
      split at h
      · obtain ⟨-, rfl⟩ := Prod.mk.inj (Option.some.inj h)
        simp only [List.length_cons]
        omega
      · cases h
    · cases h
  · split at h
    · cases h
    · obtain ⟨-, rfl⟩ := Prod.mk.inj (Option.some.inj h)
      exact Nat.le_refl _

/-- A character of a text takes at least one character to write. -/
theorem character?_length {s rest : List Char} {c : Char} (h : character? s = some (c, rest)) :
    rest.length < s.length := by
  unfold character? at h
  split at h
  · cases h
  · obtain ⟨n, -, h⟩ := Option.bind_eq_some_iff.mp h
    have hlength := ofCodeUnit?_length h
    simp only [List.length_cons]
    omega
  · obtain ⟨e, -, h⟩ := Option.map_eq_some_iff.mp h
    obtain ⟨-, rfl⟩ := Prod.mk.inj h
    simp only [List.length_cons]
    omega
  · split at h
    · cases h
    · obtain ⟨-, rfl⟩ := Prod.mk.inj (Option.some.inj h)
      simp

/-- Reads a string from behind its first quotation mark up to the second one. -/
def string? (s : List Char) : Option (List Char × List Char) :=
  if s.head? = some '"' then some ([], s.tail)
  else
    match _h : character? s with
    | none => none
    | some (c, rest) => (string? rest).map fun (content, rest) => (c :: content, rest)
termination_by s.length
decreasing_by exact character?_length _h

/-- A string goes on behind a character that is not the closing mark. -/
theorem string?_of_character? {s rest : List Char} {c : Char} (hquote : s.head? ≠ some '"')
    (h : character? s = some (c, rest)) :
    string? s = (string? rest).map fun (content, rest) => (c :: content, rest) := by
  rw [string?, if_neg hquote]
  split
  · next hnone => simp [h] at hnone
  · next hsome =>
    obtain ⟨rfl, rfl⟩ := Prod.mk.inj (Option.some.inj (h.symm.trans hsome))
    rfl

/-- What is behind a text is no longer than the text with it. -/
theorem string?_length {s content rest : List Char} (h : string? s = some (content, rest)) :
    rest.length ≤ s.length := by
  induction s using string?.induct generalizing content with
  | case1 s hquote =>
    rw [string?, if_pos hquote] at h
    obtain ⟨-, rfl⟩ := Prod.mk.inj (Option.some.inj h)
    simp
  | case2 s hquote hnone =>
    rw [string?, if_neg hquote] at h
    split at h
    · cases h
    · simp_all
  | case3 s hquote c more hsome ih =>
    rw [string?_of_character? hquote hsome] at h
    obtain ⟨⟨content', rest'⟩, hrest, h⟩ := Option.map_eq_some_iff.mp h
    obtain ⟨-, rfl⟩ := Prod.mk.inj h
    have hmore := character?_length hsome
    have hlength := ih hrest
    omega

/-! ### Numbers -/

/-- What stands behind one or more digits. -/
def behindDigits? (s : List Char) : Option (List Char) :=
  if (s.takeWhile Char.isDigit).isEmpty then none else some (s.dropWhile Char.isDigit)

/-- What stands behind the whole part of a number, which does not begin with a needless zero. -/
def behindWhole? : List Char → Option (List Char)
  | '0' :: rest => some rest
  | s => behindDigits? s

/-- What stands behind a fraction, if there is one. -/
def behindFraction? : List Char → Option (List Char)
  | '.' :: rest => behindDigits? rest
  | s => some s

/-- What stands behind an exponent, if there is one. -/
def behindExponent? : List Char → Option (List Char)
  | 'e' :: '+' :: rest | 'E' :: '+' :: rest => behindDigits? rest
  | 'e' :: '-' :: rest | 'E' :: '-' :: rest => behindDigits? rest
  | 'e' :: rest | 'E' :: rest => behindDigits? rest
  | s => some s

/-- What stands behind the sign of a number, if there is one. -/
def behindMinus : List Char → List Char
  | '-' :: rest => rest
  | s => s

/-- Whether a text spells a number. -/
def isNumber (s : List Char) : Bool :=
  (((behindWhole? (behindMinus s)).bind behindFraction?).bind behindExponent?) = some []

/-! ### Tokens -/

/-- A piece of a text: a sign, or a value that does not contain others. -/
inductive Token where
  | openArray
  | closeArray
  | openObject
  | closeObject
  | comma
  | colon
  | scalar (v : Json)

/-- Characters that mean nothing between tokens. -/
def isBlank (c : Char) : Bool := c = ' ' || c = '\t' || c = '\n' || c = '\r'

/-- The sign that a character is. -/
def sign? : Char → Option Token
  | '[' => some .openArray
  | ']' => some .closeArray
  | '\x7b' => some .openObject
  | '\x7d' => some .closeObject
  | ',' => some .comma
  | ':' => some .colon
  | _ => none

/-- Whether a character goes on with a word or a number. -/
def isPlain (c : Char) : Bool := !isBlank c && (sign? c).isNone && c != '"'

/-- The value that a word or a number is. -/
def plain? (s : List Char) : Option Json :=
  if s = "null".toList then some .null
  else if s = "true".toList then some (.bool true)
  else if s = "false".toList then some (.bool false)
  else if isNumber s then some (.number s)
  else none

/-- The tokens of a text. -/
def tokens? : List Char → Option (List Token)
  | [] => some []
  | c :: rest =>
    if isBlank c then tokens? rest
    else
      match sign? c with
      | some sign => (tokens? rest).map (sign :: ·)
      | none =>
        if c = '"' then
          match _h : string? rest with
          | none => none
          | some (content, rest) =>
            (tokens? rest).map (.scalar (.string (String.ofList content)) :: ·)
        else
          (plain? (c :: rest.takeWhile isPlain)).bind fun v =>
            (tokens? (rest.dropWhile isPlain)).map (.scalar v :: ·)
termination_by s => s.length
decreasing_by
  · simp
  · simp
  · have := string?_length _h
    simp only [List.length_cons]
    omega
  · have := (List.dropWhile_suffix isPlain (l := rest)).length_le
    simp only [List.length_cons]
    omega

/-! ### Values -/

/-- What has been read of an array or an object, latest first, when one of its values is next. -/
inductive Layer where
  | array (items : List Json)
  | object (fields : List (String × Json)) (key : String)

mutual

/-- Reads on where a value is due, inside the given layers. -/
def value? : List Token → List Layer → Option Json
  | .scalar v :: rest, layers => behind? v rest layers
  | .openArray :: .closeArray :: rest, layers => behind? (.array []) rest layers
  | .openArray :: rest, layers => value? rest (.array [] :: layers)
  | .openObject :: .closeObject :: rest, layers => behind? (.object []) rest layers
  | .openObject :: .scalar (.string key) :: .colon :: rest, layers =>
    value? rest (.object [] key :: layers)
  | _, _ => none

/-- Reads on behind a value. -/
def behind? (v : Json) : List Token → List Layer → Option Json
  | [], [] => some v
  | .comma :: rest, .array items :: layers => value? rest (.array (v :: items) :: layers)
  | .closeArray :: rest, .array items :: layers =>
    behind? (.array (v :: items).reverse) rest layers
  | .comma :: .scalar (.string next) :: .colon :: rest, .object fields key :: layers =>
    value? rest (.object ((key, v) :: fields) next :: layers)
  | .closeObject :: rest, .object fields key :: layers =>
    behind? (.object ((key, v) :: fields).reverse) rest layers
  | _, _ => none

end

/-- Reads a text as JSON. -/
def parse? (s : List Char) : Option Json := (tokens? s).bind fun tokens => value? tokens []

example : (parse? "[01]".toList).isNone ∧ (parse? "[1,]".toList).isNone := by decide +kernel

/-- The value of a field. -/
def field? (key : String) : Json → Option Json
  | .object fields => fields.lookup key
  | _ => none

end Json

end ModelCheck
