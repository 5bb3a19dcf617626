import HtmlTemplate.Decimal.Printed
import HtmlTemplate.Markup.Render
import HtmlTemplate.Text.Quoted
import HtmlTemplate.Value.Basic

/-!
# Values as text

A value has two texts. Its display is what it contributes to a page. Its
representation shows the quotes of a text; lists and maps are always shown with the
representations of their members.
-/

namespace HtmlTemplate

namespace Decimal.Binary64

/-- The magnitude as it is displayed: a whole number below `10 ^ 16` with one place,
any other finite number with the fewest digits that read back, never with an
exponent. -/
def displayMagnitude (x : Binary64) : Text :=
  if x.isNaN then "NaN".toList
  else if !x.isFinite then "inf".toList
  else if x.isWhole && x.numerator < Nat.pow 10 16 * x.denominator then x.fixed 1
  else x.shortest.positional

/-- A number as it is displayed. -/
def display (x : Binary64) : Text :=
  if x.isNegative && !x.isNaN then '-' :: x.displayMagnitude else x.displayMagnitude

end Decimal.Binary64

/-- The display of a truth value. -/
def displayBool (value : Bool) : Text :=
  if value then "true".toList else "false".toList

mutual

/-- The representation of a value. -/
def Value.repr : Value → Text
  | .bool value => displayBool value
  | .int value => Decimal.integer value
  | .float value => value.display
  | .text value => Text.quoted value
  | .markup node => node.render
  | .map entries => '{' :: Text.join [',', ' '] (reprEntries entries) ++ ['}']
  | .list items => '[' :: Text.join [',', ' '] (reprItems items) ++ [']']
  | .sequence _ => "<iterator>".toList
  | .component name _ => "<component ".toList ++ name ++ ['>']

/-- The representation of each item of a list. -/
def reprItems : List Value → List Text
  | [] => []
  | item :: rest => item.repr :: reprItems rest

/-- The representation of each entry of a map. -/
def reprEntries : List (Text × Value) → List Text
  | [] => []
  | entry :: rest => reprEntry entry :: reprEntries rest

/-- The representation of an entry: the quoted key, a colon and the value. -/
def reprEntry : Text × Value → Text
  | (key, value) => Text.quoted key ++ ':' :: ' ' :: value.repr

end

/-- The display of a value: a text as it is, anything else by its
representation. -/
def Value.display : Value → Text
  | .text value => value
  | value => value.repr

end HtmlTemplate
