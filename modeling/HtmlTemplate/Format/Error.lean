import HtmlTemplate.Text.Quoted

/-!
# Why a value cannot be formatted
-/

namespace HtmlTemplate.Format

/-- Why a format specifier is refused. -/
inductive SpecFault where
  | widthTooLarge
  | precisionTooLarge
  | missingPrecision
  | malformed
  /-- A number that is to be shown as a character is not one. -/
  | notACharacter (code : Int)
deriving DecidableEq

/-- The words for a fault in a format specifier. -/
def SpecFault.message : SpecFault → String
  | .widthTooLarge => "width too large"
  | .precisionTooLarge => "precision too large"
  | .missingPrecision => "format specifier missing precision"
  | .malformed => "invalid format specifier"
  | .notACharacter code => toString code ++ " is not a valid character"

/-- Why a value cannot be formatted. -/
inductive Error where
  | invalidSpec (spec : Text) (fault : SpecFault)
  /-- The presentation letter does not go with values of this kind. -/
  | unknownCode (code : Char) (kind : String)
  /-- A precision was asked for an integer that is shown as one. -/
  | integerPrecision
deriving DecidableEq

/-- The message for a value that cannot be formatted. -/
def Error.message : Error → String
  | .invalidSpec spec fault =>
    "invalid format specifier " ++ String.ofList (Text.quoted spec) ++ ": " ++ fault.message
  | .unknownCode code kind =>
    "unknown format code '" ++ code.toString ++ "' for value of type " ++ kind
  | .integerPrecision => "precision not allowed in integer format specifier"

end HtmlTemplate.Format
