import ModelCheck.Text.CodeRanges

/-!
# Blank characters and trimming

Blank means the Unicode property White_Space: 25 characters, among them the tab,
the line feed, the no-break space and the ideographic space. Trimming removes
blank characters from the two ends of a text and nothing else.
-/

namespace ModelCheck.Text

/-- The characters with the Unicode property White_Space. -/
def blankRanges : CodeRanges :=
  [(0x09, 0x0D), (0x20, 0x20), (0x85, 0x85), (0xA0, 0xA0), (0x1680, 0x1680), (0x2000, 0x200A),
   (0x2028, 0x2029), (0x202F, 0x202F), (0x205F, 0x205F), (0x3000, 0x3000)]

/-- Whether a character is blank. -/
def isBlank (c : Char) : Bool := blankRanges.contains c

/-- A text without the characters at its end that satisfy `p`. -/
def dropEndWhile (p : Char → Bool) (s : List Char) : List Char :=
  (s.reverse.dropWhile p).reverse

/-- A text without the blank characters at its two ends. -/
def trim (s : List Char) : List Char := dropEndWhile isBlank (s.dropWhile isBlank)

/-- `trim` on strings. -/
def trimmed (s : String) : String := String.ofList (trim s.toList)

/-- Whether a text holds blank characters only. -/
def isAllBlank (s : String) : Bool := s.toList.all isBlank

end ModelCheck.Text
