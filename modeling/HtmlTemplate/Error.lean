import HtmlTemplate.Format.Error

/-!
# Why a template does not render
-/

namespace HtmlTemplate

/-- Why a template does not render. The first three causes lie in the structure of the
markup and carry the index of the item in which they came to light. -/
inductive Error where
  /-- A closing tag does not fit the element that is open. -/
  | mismatchedTag (expected found : Text) (item : Nat)
  /-- A closing tag stands where no element is open. -/
  | strayClosingTag (found : Text) (item : Nat)
  /-- An element is still open at the end. -/
  | unclosedTag (name : Text) (item : Nat)
  /-- There is neither a text nor an element. -/
  | empty
  /-- A place that takes one value was given another number of them. -/
  | notSingle (place : String) (count : Nat)
  | invalidAttributeName (name : Text)
  | invalidTagName (name : Text)
  /-- A value of the wrong kind, with its kind and its representation. -/
  | wrongKind (expected : String) (got : Text)
  /-- A node in a tag name that has further parts. -/
  | ambiguousComponent (count : Nat)
  /-- A marker for an item that is no interpolation. -/
  | danglingMarker (index : Nat)
  /-- Values are nested deeper than the limit. -/
  | nestingTooDeep (limit : Nat)
  /-- A sequence yields more values than the limit. -/
  | tooManyValues (limit : Nat)
  | format (error : Format.Error)
deriving DecidableEq

namespace Error

/-- The index of the item in which a fault in the structure came to light. -/
def item? : Error → Option Nat
  | .mismatchedTag _ _ item => some item
  | .strayClosingTag _ item => some item
  | .unclosedTag _ item => some item
  | _ => none

/-- The message for a template that does not render. -/
def message : Error → String
  | .mismatchedTag expected found _ =>
    "unexpected closing tag </" ++ String.ofList found ++ ">, expected </" ++
      String.ofList expected ++ ">"
  | .strayClosingTag found _ =>
    "unexpected closing tag </" ++ String.ofList found ++ ">: no element is open"
  | .unclosedTag name _ => "unclosed tag <" ++ String.ofList name ++ ">"
  | .empty => "nothing to return: the template produced no nodes"
  | .notSingle place count =>
    place ++ " value must be single, got " ++ toString count ++ " fragments"
  | .invalidAttributeName name =>
    "not a valid attribute name: " ++ String.ofList (Text.quoted name)
  | .invalidTagName name => "not a valid tag: " ++ String.ofList (Text.quoted name)
  | .wrongKind expected got =>
    "type error: expected " ++ expected ++ ", got " ++ String.ofList got
  | .ambiguousComponent count =>
    "can only have a standalone HTML component in a tag name, got " ++ toString count ++
      " fragments"
  | .danglingMarker index =>
    "placeholder x$" ++ toString index ++ "x does not refer to an interpolation"
  | .nestingTooDeep limit =>
    "nesting too deep while flattening interpolated values (limit " ++ toString limit ++ ")"
  | .tooManyValues limit =>
    "interpolated sequence yields more than " ++ toString limit ++ " values"
  | .format error => error.message

end Error

end HtmlTemplate
