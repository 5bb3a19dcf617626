import HtmlTemplate.Text.Letter

/-!
# Valid names

Which texts may be the name of an attribute or of an element in a resolved tree.
-/

namespace HtmlTemplate.Resolve

/-- Whether a character can begin the name of an attribute. -/
def beginsAttributeName (c : Char) : Bool :=
  Text.isAsciiLetter c || c = '_'

/-- Whether a character can stand further on in the name of an attribute. -/
def continuesAttributeName (c : Char) : Bool :=
  Text.isAsciiLetter c || Text.isAsciiDigit c || c = '_' || c = '-' || c = '.'

/-- Whether a text is a valid name of an attribute. -/
def isAttributeName : Text → Bool
  | [] => false
  | c :: rest => beginsAttributeName c && rest.all continuesAttributeName

/-- Whether a text begins with an ASCII digit. -/
def beginsWithDigit : Text → Bool
  | [] => false
  | c :: _ => Text.isAsciiDigit c

/-- Whether a text is a valid name of an element: word characters and hyphens, no two
hyphens side by side, and no digit at the beginning or behind a hyphen there. -/
def isTagName (name : Text) : Bool :=
  let unsigned := match name with
    | '-' :: rest => rest
    | _ => name
  !name.isEmpty && name.all (fun c => Text.isWordChar c || c = '-') &&
    !Text.occurs ['-', '-'] name && !beginsWithDigit unsigned

end HtmlTemplate.Resolve
