import HtmlTemplate.Template.Basic
import HtmlTemplate.Text.Quoted

/-!
# Faults in the source of a template
-/

namespace HtmlTemplate.Template

/-- What can be wrong in the source of a template. -/
inductive SourceFault where
  /-- A brace opens an interpolation that is not closed. -/
  | unclosedBrace
  /-- A brace closes nothing. -/
  | strayBrace
  /-- What stands behind an exclamation mark is no conversion. -/
  | badConversion (conversion : Text)
  /-- The expression is not a dotted path. -/
  | unsupportedExpression (expression : Text)
  /-- The path leads to no value. -/
  | undefinedVariable (path : Text)
deriving DecidableEq, Repr

namespace SourceFault

/-- The message for a fault. -/
def message : SourceFault → String
  | .unclosedBrace => "expecting '\x7d'"
  | .strayBrace => "single '\x7d' is not allowed"
  | .badConversion conversion =>
    "bad conversion: " ++ String.ofList (Text.quoted conversion)
  | .unsupportedExpression expression =>
    "unsupported expression `" ++ String.ofList expression ++ "`"
  | .undefinedVariable path => "undefined variable: " ++ String.ofList path

/-- What is said about the place of a fault. -/
def label : SourceFault → String
  | .unclosedBrace => "interpolation starts here"
  | .strayBrace => "unmatched brace"
  | .badConversion _ => "in this interpolation"
  | .unsupportedExpression _ => "not a name or dotted path"
  | .undefinedVariable _ => "not found in the context"

/-- How a fault can be mended, where there is a rule for it. -/
def note : SourceFault → Option String
  | .unclosedBrace => some "write `\x7b\x7b` for a literal brace"
  | .strayBrace => some "write `\x7d\x7d` for a literal brace"
  | .badConversion _ => some "expected one of !s, !r, !a"
  | .unsupportedExpression _ =>
    some "only names and dotted paths such as `user.name` or `items.0` are allowed"
  | .undefinedVariable _ => none

end SourceFault

/-- A fault and its place in the source. -/
structure SourceError where
  fault : SourceFault
  span : Span
deriving DecidableEq, Repr

/-- The message for a fault, with its place. -/
def SourceError.display (error : SourceError) : String :=
  error.fault.message ++ " (at " ++ toString error.span.start ++ ".." ++
    toString error.span.stop ++ ")"

end HtmlTemplate.Template
