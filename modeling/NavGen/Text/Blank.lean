import NavGen.Text.CodeRange

/-!
# Blank characters

A character is blank when Unicode gives it the property White_Space. Trimming and the test for an empty-looking text use this set,
which is larger than the ASCII blanks: it holds the no-break space, the next line control and the ideographic space, but not the zero
width space.
-/

namespace NavGen.Text

/-- The code points with the property White_Space. -/
def blankRanges : CodeRanges := [
  (0x9, 0xD), (0x20, 0x20), (0x85, 0x85), (0xA0, 0xA0), (0x1680, 0x1680), (0x2000, 0x200A), (0x2028, 0x2029), (0x202F, 0x202F),
  (0x205F, 0x205F), (0x3000, 0x3000)]

/-- Whether a character is blank. -/
def isBlankChar (c : Char) : Bool :=
  blankRanges.contains c.toNat

/-- The characters without the blanks at both ends. -/
def trimChars (cs : List Char) : List Char :=
  ((cs.dropWhile isBlankChar).reverse.dropWhile isBlankChar).reverse

/-- The text without the blanks at both ends. -/
def trim (s : String) : String :=
  String.ofList (trimChars s.toList)

/-- Whether a text has blanks only. -/
def isBlank (s : String) : Bool :=
  s.toList.all isBlankChar

end NavGen.Text
