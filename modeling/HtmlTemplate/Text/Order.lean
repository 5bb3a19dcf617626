import HtmlTemplate.Text.Basic

/-!
# The order of texts

Texts are ordered by the numbers of their characters, like the words of a dictionary.
-/

namespace HtmlTemplate.Text

/-- Whether the first text is the second or comes before it. -/
def notAfter : Text → Text → Bool
  | [], _ => true
  | _ :: _, [] => false
  | a :: as, b :: bs => if a = b then notAfter as bs else a < b

/-- Whether the first list of texts is the second or comes before it. -/
def listNotAfter : List Text → List Text → Bool
  | [], _ => true
  | _ :: _, [] => false
  | a :: as, b :: bs => if a = b then listNotAfter as bs else notAfter a b

end HtmlTemplate.Text
