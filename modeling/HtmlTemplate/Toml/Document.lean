import HtmlTemplate.Toml.Scalar
import HtmlTemplate.Toml.Table

/-!
# TOML documents

A document is a sequence of statements, each on a line of its own. `parse` reads them
and makes one table of them.
-/

namespace HtmlTemplate.Toml

open Reader

/-- How many arrays and inline tables may be nested, and how many parts a dotted key may
have, counted with one more. -/
def nestingLimit : Nat := 80

/-! ## Keys -/

/-- Whether a character can stand in a key without quotes. -/
def isBareKeyChar (c : Char) : Bool :=
  Text.isAsciiLetter c || Text.isAsciiDigit c || c = '-' || c = '_'

/-- Takes one part of a key. -/
def simpleKey : Reader Text :=
  basicString <|> literalString <|> do
    let first ← takeIf isBareKeyChar
    let more ← takeWhile isBareKeyChar
    pure (first :: more)

/-- Takes a dotted key, and gives all its parts but the last, and the last. -/
def dottedKey : Reader (List Text × Text) := do
  let parts ← separated (takeChar '.') (do blanks; let part ← simpleKey; blanks; pure part)
  if nestingLimit ≤ parts.length then failure
  else ofOption (parts.getLast?.map fun last => (parts.dropLast, last))

/-! ## Values -/

/-- Takes the blanks, comments and line ends between the values of an array. -/
def arrayBlanks : Reader Unit := do
  let _ ← many (newline <|> (do let _ ← takeIf isLineBlank) <|> (do comment; newline))

/-- Takes an array of what a reader takes. A comma may stand behind the last value. -/
def array (value : Reader Value) : Reader Value := do
  takeChar '['
  let items ← maybe (separated (takeChar ',') do
    arrayBlanks
    let item ← value
    arrayBlanks
    pure item)
  if items.isSome then
    let _ ← maybe (takeChar ',')
  arrayBlanks
  takeChar ']'
  pure (.array (items.getD []))

/-- Takes a table on one line whose values are what a reader takes. -/
def inlineTable (value : Reader Value) : Reader Value := do
  takeChar '{'
  let pairs ← maybe (separated (takeChar ',') do
    let (path, key) ← dottedKey
    takeChar '='
    blanks
    let value ← value
    blanks
    pure (path, key, value))
  blanks
  takeChar '}'
  let table ← ofOption (Table.ofInline (pairs.getD []))
  pure (.table table)

/-- Takes a value that is neither an array nor a table. -/
def scalar : Reader Value :=
  (do return .text (← string)) <|>
  (do return .moment (← moment)) <|>
  (do return .float (← float)) <|>
  (do return .integer (← integer)) <|>
  (do takeText "true".toList; pure (.boolean true)) <|>
  (do takeText "false".toList; pure (.boolean false))

/-- Takes a value in which arrays and tables are nested at most `room` deep. -/
def value : Nat → Reader Value
  | 0 => scalar
  | room + 1 => array (value room) <|> inlineTable (value room) <|> scalar

/-! ## Statements -/

/-- Takes what may stand behind a statement on its line, and the end of the line. -/
def lineEnd : Reader Unit := do
  blanks
  let _ ← maybe comment
  newline <|> atEnd

/-- Takes a value with its key. -/
def keyedValue : Reader Statement := do
  let (path, key) ← dottedKey
  takeChar '='
  blanks
  let value ← value (nestingLimit - 1)
  lineEnd
  pure (.value path key value)

/-- Takes the header of a table in an array of tables. -/
def elementHeader : Reader Statement := do
  takeText ['[', '[']
  let (path, key) ← dottedKey
  takeText [']', ']']
  lineEnd
  pure (.element path key)

/-- Takes the header of a table. -/
def tableHeader : Reader Statement := do
  takeChar '['
  let (path, key) ← dottedKey
  takeChar ']'
  lineEnd
  pure (.table path key)

/-- Takes a line that holds no statement. -/
def emptyLine : Reader (Option Statement) := do
  (do comment; newline <|> atEnd) <|> newline
  pure none

/-- Takes the statements of a document. -/
def statements : Reader (List Statement) := do
  let _ ← maybe (takeChar '\uFEFF')
  blanks
  let lines ← many do
    let line ← emptyLine <|> some <$> elementHeader <|> some <$> tableHeader <|>
      some <$> keyedValue
    blanks
    pure line
  atEnd
  pure (lines.filterMap id)

/-- The table of a document, if the text is one. -/
def parse (text : Text) : Option Table :=
  ((statements.run text).map Prod.fst).bind Table.ofStatements

end HtmlTemplate.Toml
