import Slapstic.Text.Ranges

/-!
# Text/Blank — white space, and text without it at its ends

White space is Unicode's `White_Space` property: twenty-five characters, the ASCII ones and the
spaces and separators beyond.  `trim` drops it from both ends of a text and leaves the middle alone.
-/

namespace Slapstic.Text

/-- The code points with Unicode's `White_Space` property. -/
def blanks : Ranges :=
  [(0x09, 0x0D), (0x20, 0x20), (0x85, 0x85), (0xA0, 0xA0), (0x1680, 0x1680), (0x2000, 0x200A),
    (0x2028, 0x2029), (0x202F, 0x202F), (0x205F, 0x205F), (0x3000, 0x3000)]

/-- **A blank** is a white space character. -/
def isBlank (c : Char) : Bool := blanks.has c

/-- The text from its first character that is no blank. -/
def trimLeft (text : List Char) : List Char := text.dropWhile isBlank

/-- The text up to its last character that is no blank. -/
def trimRight (text : List Char) : List Char := (text.reverse.dropWhile isBlank).reverse

/-- **The text without the blanks at its two ends.** -/
def trim (text : List Char) : List Char := trimRight (trimLeft text)

end Slapstic.Text
