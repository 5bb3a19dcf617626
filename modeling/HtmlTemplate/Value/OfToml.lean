import HtmlTemplate.Toml.Document
import HtmlTemplate.Value.Basic

/-!
# Values from TOML

The variables a template refers to can come from a TOML document: every key of its table is
a variable.
-/

namespace HtmlTemplate

mutual

/-- The value of a TOML value. A date or a time is the text it is written as. -/
def Value.ofToml : Toml.Value → Value
  | .text value => .text value
  | .integer value => .int value
  | .float value => .float value
  | .boolean value => .bool value
  | .moment value => .text value.written
  | .array items => .list (Value.listOfToml items)
  | .table entries => .map (Value.mapOfToml entries)

/-- The values of the items of a TOML array. -/
def Value.listOfToml : List Toml.Value → List Value
  | [] => []
  | item :: rest => Value.ofToml item :: Value.listOfToml rest

/-- The entries of a TOML table with their values. -/
def Value.mapOfToml : List (Text × Toml.Value) → List (Text × Value)
  | [] => []
  | entry :: rest => Value.entryOfToml entry :: Value.mapOfToml rest

/-- An entry of a TOML table with its value. -/
def Value.entryOfToml : Text × Toml.Value → Text × Value
  | (key, value) => (key, Value.ofToml value)

end

/-- The variables of a TOML document, if the text is one. -/
def Toml.context? (text : Text) : Option (Dictionary HtmlTemplate.Value) :=
  (parse text).map HtmlTemplate.Value.mapOfToml

end HtmlTemplate
