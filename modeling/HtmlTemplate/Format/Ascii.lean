import HtmlTemplate.Decimal.Numeral

/-!
# Text in ASCII

Every character that is not ASCII is written as a backslash escape, of the shortest
of three widths that holds its number.
-/

namespace HtmlTemplate.Format

/-- The digits of a number in base sixteen, filled up with zeros in front to a given
number of digits. -/
def hexadecimal (width n : Nat) : Text :=
  let text := Decimal.numeral 16 n
  List.replicate (width - text.length) '0' ++ text

/-- How a character stands in ASCII text. -/
def asciiChar (c : Char) : Text :=
  let code := c.toNat
  if code < 0x80 then [c]
  else if code ≤ 0xFF then '\\' :: 'x' :: hexadecimal 2 code
  else if code ≤ 0xFFFF then '\\' :: 'u' :: hexadecimal 4 code
  else '\\' :: 'U' :: hexadecimal 8 code

/-- A text with an escape for every character that is not ASCII. -/
def ascii (text : Text) : Text :=
  text.flatMap asciiChar

end HtmlTemplate.Format
