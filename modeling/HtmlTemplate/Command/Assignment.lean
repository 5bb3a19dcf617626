import HtmlTemplate.Decimal.Reading
import HtmlTemplate.Text.Blank
import HtmlTemplate.Value.Basic

/-!
# Variables set by arguments

An argument such as `name=World` sets a variable. Its value is read as the first of
integer, floating-point number and truth value that it is the text of, and is a text
otherwise.
-/

namespace HtmlTemplate.Command

/-- The value an argument stands for. A word that happens to name a number, such as
`inf`, is a text: a floating-point number has at least one digit. -/
def readArgument (text : Text) : Value :=
  match Decimal.toInt64? text with
  | some n => .int n
  | none =>
    match if text.any Text.isAsciiDigit then Decimal.toBinary64? text else none with
    | some x => .float x
    | none =>
      if text = "true".toList then .bool true
      else if text = "false".toList then .bool false
      else .text text

/-- Why an argument does not set a variable. -/
inductive AssignmentError where
  /-- There is no equals sign. -/
  | noEqualsSign (argument : Text)
  /-- In front of the equals sign there are only blanks. -/
  | noKey (argument : Text)
deriving DecidableEq, Repr

/-- The message for an argument that does not set a variable. -/
def AssignmentError.message : AssignmentError → String
  | .noEqualsSign argument => "expected key=value, got '" ++ String.ofList argument ++ "'"
  | .noKey argument => "missing key in '" ++ String.ofList argument ++ "'"

/-- The variable that an argument sets and its value: what stands in front of the first
equals sign, without blanks at its ends, and what stands behind. -/
def readAssignment (argument : Text) : Except AssignmentError (Text × Value) :=
  match Text.splitOnce '=' argument with
  | none => .error (.noEqualsSign argument)
  | some (key, value) =>
    let key := Text.trim key
    if key.isEmpty then .error (.noKey argument) else .ok (key, readArgument value)

end HtmlTemplate.Command
