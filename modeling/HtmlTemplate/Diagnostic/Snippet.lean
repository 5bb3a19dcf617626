import HtmlTemplate.Decimal.Numeral
import HtmlTemplate.Diagnostic.Place
import HtmlTemplate.Template.Basic

/-!
# Messages that show their place

A diagnostic is a message about a part of a source text. It is shown with the lines that
the part lies in: carets underline a part within one line, and a bracket on the left
embraces a part of several lines, of which no more than the first four and the last two
are shown.
-/

namespace HtmlTemplate

/-- A message about a part of a source text. -/
structure Diagnostic where
  message : Text
  span : Span
  /-- What is said about the part itself. -/
  label : Text := []
  /-- How the fault can be mended. -/
  note : Option Text := none

namespace Diagnostic

/-- A number of equal characters. -/
def repeated (count : Nat) (c : Char) : Text :=
  List.replicate count c

/-- The blank margin in front of a line that has no number. -/
def margin (width : Nat) : Text :=
  repeated (width + 1) ' '

/-- The margin with the number of a line. -/
def numberedMargin (width line : Nat) : Text :=
  let digits := Decimal.natural (line + 1)
  repeated (width - digits.length) ' ' ++ digits ++ [' ']

/-- Puts a label behind what points at its part. -/
def withLabel (label : Text) : Text :=
  if label.isEmpty then [] else ' ' :: label

/-- The carets under the characters of a line from one up to another. The end of the line
counts as one more character, and at least one character is underlined. -/
def carets (line : Text) (start stop : Nat) : Text :=
  let stop := max stop (start + 1)
  let widths := (cells 0 line).map Prod.snd ++ [1]
  repeated (columns (widths.take start)) ' ' ++
    repeated (columns ((widths.take stop).drop start)) '^'

/-- The lines for a part within one line. -/
def singleLine (width : Nat) (line : Text) (start stop : Place) (label : Text) : List Text :=
  [numberedMargin width start.line ++ "│ ".toList ++ withoutTabs line,
    margin width ++ "│ ".toList ++ carets line start.column stop.column ++ withLabel label]

/-- The line with which a part of several lines begins. If only blanks stand in front of
the part, the bracket opens beside the line, and else below it. -/
def openingLines (width : Nat) (line : Text) (start : Place) : List Text :=
  let numbered (bracket : String) : Text :=
    numberedMargin width start.line ++ bracket.toList ++ withoutTabs line
  if start.column ≤ (line.takeWhile Text.isBlank).length then [numbered "│ ╭ "]
  else
    [numbered "│   ",
      margin width ++ "│ ╭".toList ++ repeated (widthOfFirst (start.column + 1) line) '─' ++ ['^']]

/-- A line that lies in the part as a whole. -/
def embracedLine (width : Nat) (number : Nat) (line : Text) : Text :=
  numberedMargin width number ++ "│ │ ".toList ++ withoutTabs line

/-- The line with which a part of several lines ends. -/
def closingLines (width : Nat) (line : Text) (stop : Place) (label : Text) : List Text :=
  [embracedLine width stop.line line,
    margin width ++ "│ ╰".toList ++ repeated (widthOfFirst stop.column line) '─' ++ ['^'] ++
      withLabel label]

/-- How many lines are shown behind the first line of a part. -/
def linesAfterStart : Nat := 3

/-- How many lines are shown in front of the last line of a part. -/
def linesBeforeStop : Nat := 1

/-- The lines between the first and the last line of a part. If two or more of them are
left out, a dotted border stands for them. -/
def middleLines (width : Nat) (lineAt : Nat → Text) (first last : Nat) : List Text :=
  let embraced (start count : Nat) : List Text :=
    (List.range' start count).map fun number => embracedLine width number (lineAt number)
  let between := last - first - 1
  if between ≤ linesAfterStart + linesBeforeStop + 1 then embraced (first + 1) between
  else
    embraced (first + 1) linesAfterStart ++ [margin width ++ "· │".toList] ++
      embraced (last - linesBeforeStop) linesBeforeStop

/-- The lines for a part of several lines. -/
def severalLines (width : Nat) (lineAt : Nat → Text) (start stop : Place) (label : Text) :
    List Text :=
  openingLines width (lineAt start.line) start ++
    middleLines width lineAt start.line stop.line ++
    closingLines width (lineAt stop.line) stop label

/-- A diagnostic about a source as it is shown: the message, the name of the source with the
place, the lines, and the note, with an empty line behind all. -/
def render (name source : Text) (diagnostic : Diagnostic) : Text :=
  let lines := Text.splitOn '\n' source
  let lineAt (number : Nat) : Text := shownLine (lines[number]?.getD [])
  let start := locate lines diagnostic.span.start
  let stop := locate lines diagnostic.span.stop
  let width := (Decimal.natural (stop.line + 1)).length
  let isSingle := start.line = stop.line
  let emptyLine := margin width ++ (if isSingle then "│" else "│  ").toList
  let place := name ++ ':' :: Decimal.natural (start.line + 1) ++
    ':' :: Decimal.natural (start.column + 1)
  let snippet :=
    if isSingle then singleLine width (lineAt start.line) start stop diagnostic.label
    else severalLines width lineAt start stop diagnostic.label
  let note := match diagnostic.note with
    | none => []
    | some note => [emptyLine, margin width ++ "= ".toList ++ note]
  (("error: ".toList ++ diagnostic.message) :: (margin width ++ "┌─ ".toList ++ place) ::
    emptyLine :: snippet ++ note ++ [[]]).flatMap (· ++ ['\n'])

end Diagnostic

end HtmlTemplate
