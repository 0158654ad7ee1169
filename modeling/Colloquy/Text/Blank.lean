import Colloquy.Text.Ranges

/-!
# Blank characters

The characters with the Unicode property White_Space: they separate words, are trimmed from the start of a field,
and make a name empty when it has nothing else.
-/

namespace Colloquy.Text

/-- The property White_Space. -/
def blankRanges : Ranges :=
  [ (0x9, 0xD), (0x20, 0x20), (0x85, 0x85), (0xA0, 0xA0), (0x1680, 0x1680), (0x2000, 0x200A), (0x2028, 0x2029),
    (0x202F, 0x202F), (0x205F, 0x205F), (0x3000, 0x3000) ]

/-- Whether a character is white space. -/
def isBlank (c : Char) : Bool :=
  blankRanges.contains c

/-- The text from its first character that is not white space on. -/
def trimStart (text : List Char) : List Char :=
  text.dropWhile isBlank

/-- The text between its first and its last character that is not white space. -/
def trim (text : List Char) : List Char :=
  (trimStart (trimStart text).reverse).reverse

end Colloquy.Text
