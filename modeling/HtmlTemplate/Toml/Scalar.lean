import HtmlTemplate.Decimal.Reading
import HtmlTemplate.Toml.Reader
import HtmlTemplate.Toml.Value

/-!
# TOML scalars

How strings, numbers, dates and times are written in TOML.
-/

namespace HtmlTemplate.Toml

open Reader

/-! ## Blanks and line ends -/

/-- Whether a character is a blank within a line. -/
def isLineBlank (c : Char) : Bool :=
  c = ' ' || c = '\t'

/-- Takes the blanks at the beginning. -/
def blanks : Reader Unit := do
  let _ ← takeWhile isLineBlank

/-- Takes the end of a line. -/
def newline : Reader Unit :=
  takeChar '\n' <|> takeText ['\r', '\n']

/-- Whether a character is not one of the controls other than the tab. -/
def isPlain (c : Char) : Bool :=
  c = '\t' || (' ' ≤ c && c ≠ '\x7f')

/-- Takes a comment up to the end of its line. -/
def comment : Reader Unit := do
  takeChar '#'
  let _ ← takeWhile isPlain

/-! ## Strings -/

/-- The character of an escape of two characters. -/
def simpleEscape? (c : Char) : Option Char :=
  if c = 'b' then some '\x08'
  else if c = 't' then some '\t'
  else if c = 'n' then some '\n'
  else if c = 'f' then some '\x0c'
  else if c = 'r' then some '\r'
  else if c = '\"' then some '\"'
  else if c = '\\' then some '\\'
  else none

/-- The character with a number of exactly `count` hexadecimal digits. -/
def codePoint (count : Nat) : Reader Char := fun text =>
  match Text.toNat? 16 (text.take count) with
  | none => none
  | some code =>
    if (text.take count).length = count ∧ code.isValidChar then
      some (Char.ofNat code, text.drop count)
    else none

/-- Takes an escape and gives its character. -/
def escape : Reader Char := do
  takeChar '\\'
  let c ← takeIf fun _ => true
  match simpleEscape? c with
  | some decoded => pure decoded
  | none => if c = 'u' then codePoint 4 else if c = 'U' then codePoint 8 else failure

/-- Takes a string of one line between double quotes, in which escapes are decoded. -/
def basicString : Reader Text := do
  takeChar '\"'
  let content ← many (takeIf (fun c => isPlain c && c ≠ '\"' && c ≠ '\\') <|> escape)
  takeChar '\"'
  pure content

/-- Takes a string of one line between single quotes, in which nothing is decoded. -/
def literalString : Reader Text := do
  takeChar '\''
  let content ← takeWhile fun c => isPlain c && c ≠ '\''
  takeChar '\''
  pure content

/-- Takes one or two quotes that do not belong to the end of a string. -/
def innerQuotes (quote : Char) : Reader Text := fun text =>
  let run := text.takeWhile (· = quote)
  if run.length = 1 ∨ run.length = 2 then some (run, text.drop run.length) else none

/-- Takes the three quotes that end a string of several lines, and gives up to two quotes
in front of them that belong to its content. -/
def closingQuotes (quote : Char) : Reader Text := fun text =>
  let run := (text.takeWhile (· = quote)).take 5
  if run.length < 3 then none else some (run.drop 3, text.drop run.length)

/-- Takes a backslash at the end of a line, and all blanks and line ends behind it. -/
def lineContinuation : Reader Unit := do
  takeChar '\\'
  blanks
  newline
  let _ ← many (newline <|> do let _ ← takeIf isLineBlank)

/-- Takes a string of several lines between three quotes on either side. A line end right
behind the opening quotes does not count, and every other is a line feed. -/
def longString (quote : Char) (content : Reader Text) : Reader Text := do
  takeText [quote, quote, quote]
  let _ ← maybe newline
  let parts ← many (content <|> (do newline; pure ['\n']) <|> innerQuotes quote)
  let last ← closingQuotes quote
  pure (parts.flatten ++ last)

/-- Takes a string of several lines between double quotes. -/
def longBasicString : Reader Text :=
  longString '\"' <|
    (do return [← takeIf fun c => isPlain c && c ≠ '\"' && c ≠ '\\']) <|>
    (do lineContinuation; pure []) <|>
    (do return [← escape])

/-- Takes a string of several lines between single quotes. -/
def longLiteralString : Reader Text :=
  longString '\'' (do return [← takeIf fun c => isPlain c && c ≠ '\''])

/-- Takes a string of any kind. -/
def string : Reader Text :=
  longBasicString <|> basicString <|> longLiteralString <|> literalString

/-! ## Numbers -/

/-- Takes one or more digits, of which each two may have an underscore between them, and
gives the digits. -/
def digitRun (isDigit : Char → Bool) : Reader Text := do
  let first ← takeIf isDigit
  let more ← many (takeIf isDigit <|> (takeChar '_' *> takeIf isDigit))
  pure (first :: more)

/-- Takes an optional sign, and gives whether it is a minus sign. -/
def sign : Reader Bool :=
  (do takeChar '-'; pure true) <|> (do takeChar '+'; pure false) <|> pure false

/-- Takes decimal digits of which the first is not zero, or a single zero. -/
def wholeDigits : Reader Text := do
  match ← peek? with
  | some '0' => takeChar '0'; pure ['0']
  | _ => digitRun Text.isAsciiDigit

/-- An integer of 64 bits with a given sign and magnitude. -/
def boundedInteger (negative : Bool) (magnitude : Nat) : Reader Int :=
  let value : Int := if negative then -magnitude else magnitude
  if Decimal.minInt64 ≤ value ∧ value ≤ Decimal.maxInt64 then pure value else failure

/-- Takes an integer whose base is announced. -/
def basedInteger (announced : Text) (base : Nat) : Reader Int := do
  takeText announced
  let digits ← digitRun fun c => (Text.digitValue? base c).isSome
  boundedInteger false ((Text.toNat? base digits).getD 0)

/-- Takes an integer. -/
def integer : Reader Int :=
  basedInteger ['0', 'x'] 16 <|> basedInteger ['0', 'o'] 8 <|> basedInteger ['0', 'b'] 2 <|> do
    let negative ← sign
    let digits ← wholeDigits
    boundedInteger negative ((Text.toNat? 10 digits).getD 0)

/-- Takes the power of ten of a number, and gives it as it is written. -/
def power : Reader Text := do
  let _ ← takeIf fun c => c = 'e' || c = 'E'
  let negative ← sign
  let digits ← digitRun Text.isAsciiDigit
  pure ('e' :: (if negative then ['-'] else []) ++ digits)

/-- Takes a floating-point number with places or a power of ten. One that is too large is
refused, but only if it is positive. -/
def decimalFloat : Reader Decimal.Binary64 := do
  let negative ← sign
  let whole ← wholeDigits
  let behind ← power <|> do
    takeChar '.'
    let places ← digitRun Text.isAsciiDigit
    let power ← maybe power
    pure ('.' :: places ++ power.getD [])
  let x ← ofOption (Decimal.toDecimal? negative (whole ++ behind))
  if x = Decimal.Binary64.infinity false then failure else pure x

/-- Takes an infinity or what is no number. -/
def specialFloat : Reader Decimal.Binary64 := do
  let negative ← sign
  (do takeText ['i', 'n', 'f']; pure (Decimal.Binary64.infinity negative)) <|>
    (do takeText ['n', 'a', 'n']; pure Decimal.Binary64.nan)

/-- Takes a floating-point number. -/
def float : Reader Decimal.Binary64 :=
  decimalFloat <|> specialFloat

/-! ## Dates and times -/

/-- Takes a number of exactly `count` digits that lies between two bounds. -/
def fixedNumber (count low high : Nat) : Reader Nat := fun text =>
  let digits := text.take count
  if digits.length = count ∧ digits.all Text.isAsciiDigit then
    let value := (Text.toNat? 10 digits).getD 0
    if low ≤ value ∧ value ≤ high then some (value, text.drop count) else none
  else none

/-- The number of days of a month. -/
def daysInMonth (year month : Nat) : Nat :=
  if month = 2 then
    if year % 4 = 0 ∧ (year % 100 ≠ 0 ∨ year % 400 = 0) then 29 else 28
  else if month = 4 ∨ month = 6 ∨ month = 9 ∨ month = 11 then 30
  else 31

/-- Takes a date. -/
def date : Reader Date := do
  let year ← fixedNumber 4 0 9999
  takeChar '-'
  let month ← fixedNumber 2 1 12
  takeChar '-'
  let day ← fixedNumber 2 1 (daysInMonth year month)
  pure { year, month, day }

/-- Takes the places of a second, and gives them in nanoseconds; places behind the ninth
are dropped. -/
def nanoseconds : Reader Nat := do
  takeChar '.'
  let digits ← takeWhile Text.isAsciiDigit
  let value ← ofOption (Text.toNat? 10 ((digits ++ List.replicate 9 '0').take 9))
  if digits.isEmpty then failure else pure value

/-- Takes a time of day. A minute may have a leap second. -/
def time : Reader Time := do
  let hour ← fixedNumber 2 0 23
  takeChar ':'
  let minute ← fixedNumber 2 0 59
  takeChar ':'
  let second ← fixedNumber 2 0 60
  let nanosecond ← maybe nanoseconds
  pure { hour, minute, second, nanosecond := nanosecond.getD 0 }

/-- Takes the distance from universal time. -/
def offset : Reader Offset :=
  (do let _ ← takeIf fun c => c = 'Z' || c = 'z'; pure .universal) <|> do
    let c ← takeIf fun c => c = '+' || c = '-'
    let hours ← fixedNumber 2 0 23
    takeChar ':'
    let minutes ← fixedNumber 2 0 59
    let total : Int := hours * 60 + minutes
    pure (.fromUniversal (if c = '-' then -total else total))

/-- Takes a date, a time of day, or a date with a time of day behind the letter `T` or a
space. -/
def moment : Reader Moment :=
  (do
    let date ← date
    let behind ← maybe do
      let _ ← takeIf fun c => c = 'T' || c = 't' || c = ' '
      let time ← time
      let offset ← maybe offset
      pure (time, offset)
    match behind with
    | none => pure { date := some date }
    | some (time, offset) => pure { date := some date, time := some time, offset }) <|>
  (do return { time := some (← time) })

end HtmlTemplate.Toml
