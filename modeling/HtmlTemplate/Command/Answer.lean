import HtmlTemplate.Text.Basic

/-!
# Answers

What a command gives back: two texts, of which one is for other programs and one for the
user, and an exit code.
-/

namespace HtmlTemplate.Command

/-- What a command gives back. -/
structure Answer where
  exitCode : Nat := 0
  /-- The result of the command. -/
  output : Text := []
  /-- What is said about the command. -/
  messages : Text := []
deriving DecidableEq, Repr

/-- Texts as lines. -/
def asLines (lines : List Text) : Text :=
  lines.flatMap (· ++ ['\n'])

/-- The line for an error without a place. -/
def errorLine (message : Text) : Text :=
  "error: ".toList ++ message ++ ['\n']

end HtmlTemplate.Command
