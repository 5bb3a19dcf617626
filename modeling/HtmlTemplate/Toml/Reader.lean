import HtmlTemplate.Text.Basic

/-!
# Reading texts step by step

A reader takes something from the beginning of a text, or fails and takes nothing. One
reader can be tried after another has failed.
-/

namespace HtmlTemplate.Toml

/-- Takes something from the beginning of a text, or fails. -/
abbrev Reader (α : Type) := StateT Text Option α

namespace Reader

/-- The next character, which is not taken; none at the end of the text. -/
def peek? : Reader (Option Char) := do
  return (← get).head?

/-- Takes one character that satisfies a condition. -/
def takeIf (condition : Char → Bool) : Reader Char := fun text =>
  match text with
  | c :: rest => if condition c then some (c, rest) else none
  | [] => none

/-- Takes a given character. -/
def takeChar (c : Char) : Reader Unit := do
  let _ ← takeIf (· = c)

/-- Takes a given text. -/
def takeText (expected : Text) : Reader Unit := fun text =>
  (Text.dropPrefix? expected text).map fun rest => ((), rest)

/-- Takes all characters up to the first that does not satisfy a condition. -/
def takeWhile (condition : Char → Bool) : Reader Text := fun text =>
  some (text.takeWhile condition, text.dropWhile condition)

/-- Takes something if it is there. -/
def maybe {α : Type} (reader : Reader α) : Reader (Option α) :=
  (some <$> reader) <|> pure none

/-- Takes something as often as it is there, but at most a given number of times. -/
def repeatUpTo {α : Type} (reader : Reader α) : Nat → Reader (List α)
  | 0 => pure []
  | times + 1 => do
    match ← maybe reader with
    | none => pure []
    | some item =>
      let items ← repeatUpTo reader times
      pure (item :: items)

/-- Takes something as often as it is there. The reader is to take at least one
character each time, so that the length of the text bounds the number of times. -/
def many {α : Type} (reader : Reader α) : Reader (List α) := do
  repeatUpTo reader (← get).length

/-- Takes something one or more times with a separator in between. -/
def separated {α : Type} (separator : Reader Unit) (reader : Reader α) :
    Reader (List α) := do
  let first ← reader
  let more ← many (separator *> reader)
  pure (first :: more)

/-- Succeeds at the end of the text. -/
def atEnd : Reader Unit := fun text =>
  if text.isEmpty then some ((), []) else none

/-- Turns an answer that may be missing into a failure. -/
def ofOption {α : Type} : Option α → Reader α
  | some item => pure item
  | none => failure

end Reader

end HtmlTemplate.Toml
