import HtmlTemplate.Decimal.Numeral
import HtmlTemplate.Text.Unprintable

/-!
# Quoted texts

A text in double quotes, as it is shown where its exact characters matter: in the
representation of a value, in error messages and in dumps.
-/

namespace HtmlTemplate.Text

/-- How a character stands in a quoted text: quotes, backslashes and the common
controls by their short escapes, characters that do not print by their number. -/
def quotedChar (c : Char) : Text :=
  if c = '\"' then ['\\', '\"']
  else if c = '\\' then ['\\', '\\']
  else if c = '\n' then ['\\', 'n']
  else if c = '\r' then ['\\', 'r']
  else if c = '\t' then ['\\', 't']
  else if c = '\x00' then ['\\', '0']
  else if isPrintable c then [c]
  else ['\\', 'u', '{'] ++ Decimal.numeral 16 c.toNat ++ ['}']

/-- The text between double quotes. -/
def quoted (text : Text) : Text :=
  '\"' :: text.flatMap quotedChar ++ ['\"']

end HtmlTemplate.Text
