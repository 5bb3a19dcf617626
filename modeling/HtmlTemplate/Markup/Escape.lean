import HtmlTemplate.Text.Basic

/-!
# Escaped text

Text as it stands between tags and in quoted attribute values: the five characters
that could end it are written as character references.
-/

namespace HtmlTemplate.Markup

/-- How a character stands in escaped text. -/
def escapeChar (c : Char) : Text :=
  if c = '&' then ['&', 'a', 'm', 'p', ';']
  else if c = '<' then ['&', 'l', 't', ';']
  else if c = '>' then ['&', 'g', 't', ';']
  else if c = '\"' then ['&', 'q', 'u', 'o', 't', ';']
  else if c = '\'' then ['&', '#', 'x', '2', '7', ';']
  else [c]

/-- A text with the characters `&`, `<`, `>` and both quotes written as character
references. -/
def escape (text : Text) : Text :=
  text.flatMap escapeChar

@[simp] theorem escape_nil : escape [] = [] := rfl

@[simp] theorem escape_cons (c : Char) (rest : Text) :
    escape (c :: rest) = escapeChar c ++ escape rest := by
  simp [escape]

@[simp] theorem escape_append (left right : Text) :
    escape (left ++ right) = escape left ++ escape right := by
  simp [escape]

end HtmlTemplate.Markup
