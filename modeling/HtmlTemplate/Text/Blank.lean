import HtmlTemplate.Text.RangeTable

/-!
# Blanks

The characters with the Unicode property White_Space, and what is cut from the
ends of a text because of them.
-/

namespace HtmlTemplate.Text

/-- The characters with the Unicode property White_Space. -/
def blankTable : RangeTable :=
  [
    (0x9, 0xD), (0x20, 0x20), (0x85, 0x85), (0xA0, 0xA0), (0x1680, 0x1680), (0x2000, 0x200A),
    (0x2028, 0x2029), (0x202F, 0x202F), (0x205F, 0x205F), (0x3000, 0x3000)]

/-- Whether a character is a blank. -/
def isBlank (c : Char) : Bool :=
  blankTable.contains c

/-- The text less the blanks at its end. -/
def trimEnd (text : Text) : Text :=
  dropEndWhile isBlank text

/-- The text less the blanks at either end. -/
def trim (text : Text) : Text :=
  trimWhile isBlank text

/-- The first maximal run of characters that are not blanks; empty if all are. -/
def firstWord (text : Text) : Text :=
  (text.dropWhile isBlank).takeWhile fun c => !isBlank c

end HtmlTemplate.Text
