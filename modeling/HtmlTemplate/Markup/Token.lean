import HtmlTemplate.Text.Basic

/-!
# Tokens of markup
-/

namespace HtmlTemplate.Markup

/-- An attribute as it is written: its name, and its value if an equals sign follows
the name. -/
abbrev WrittenAttribute := Text × Option Text

/-- A token of markup. -/
inductive Token where
  | startTag (name : Text) (attributes : List WrittenAttribute) (selfClosing : Bool)
  | endTag (name : Text)
  /-- The end of whatever element is open, written with two slashes. -/
  | genericClose
  | text (content : Text)
deriving DecidableEq, Repr

/-- Whether a token is a text. -/
def Token.isText : Token → Bool
  | .text _ => true
  | _ => false

end HtmlTemplate.Markup
