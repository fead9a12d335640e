import OrderCustody.Text.Ranges

namespace OrderCustody.Text

/-!
# Blank characters

The characters with the White_Space property, and trimming by them.  Look-alikes
without the property, such as the zero-width space, are not blank.
-/

/-- Ranges of characters with the White_Space property. -/
def blankRanges : Ranges :=
  [(0x9, 0xd), (0x20, 0x20), (0x85, 0x85), (0xa0, 0xa0), (0x1680, 0x1680), (0x2000, 0x200a),
    (0x2028, 0x2029), (0x202f, 0x202f), (0x205f, 0x205f), (0x3000, 0x3000)]

/-- Whether a character is a blank of Unicode. -/
def isBlank (c : Char) : Bool :=
  blankRanges.contains c

/-- A text without the blank characters in front. -/
def trimStart (characters : List Char) : List Char :=
  characters.dropWhile isBlank

/-- A text without the blank characters at its end. -/
def trimEnd (characters : List Char) : List Char :=
  (characters.reverse.dropWhile isBlank).reverse

/-- A text without the blank characters around it. -/
def trim (characters : List Char) : List Char :=
  trimEnd (trimStart characters)

end OrderCustody.Text
