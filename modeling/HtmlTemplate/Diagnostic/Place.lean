import HtmlTemplate.Text.Blank
import HtmlTemplate.Text.Width

/-!
# Places in a source

A byte of a source text stands in one of its lines, behind so many characters of that
line. A line takes up columns of the screen when it is shown: a tab reaches up to the next
multiple of four, and every other character has a width of its own.
-/

namespace HtmlTemplate.Diagnostic

/-- A place in a text: the number of lines in front of it, and the number of characters in
front of it in its own line. -/
structure Place where
  line : Nat
  column : Nat
deriving DecidableEq, Repr

/-- How many characters of a text end within its first bytes. -/
def charactersWithin : Text → Nat → Nat
  | [], _ => 0
  | c :: rest, bytes =>
    if c.utf8Size ≤ bytes then charactersWithin rest (bytes - c.utf8Size) + 1 else 0

/-- The place with a given number of bytes in front of it. A line feed belongs to the line
that it ends. -/
def locate : List Text → Nat → Place
  | [], _ => { line := 0, column := 0 }
  | [line], offset => { line := 0, column := charactersWithin line offset }
  | line :: next :: lines, offset =>
    if offset ≤ Text.byteLength line then
      { line := 0, column := charactersWithin line offset }
    else
      let place := locate (next :: lines) (offset - Text.byteLength line - 1)
      { place with line := place.line + 1 }

/-- A line as it is shown, without the characters at its end that would break it. -/
def shownLine (line : Text) : Text :=
  Text.dropEndWhile (fun c => c = '\r' || c = '\x00') line

/-- The number of columns from one tab stop to the next. -/
def tabWidth : Nat := 4

/-- The number of columns that a character takes up behind a number of other columns. -/
def cellWidth (column : Nat) (c : Char) : Nat :=
  if c = '\t' then tabWidth - column % tabWidth else Text.charWidth c

/-- The characters of a line behind a number of columns, each with the number of columns
that it takes up. -/
def cells (column : Nat) : Text → List (Char × Nat)
  | [] => []
  | c :: rest =>
    let width := cellWidth column c
    (c, width) :: cells (column + width) rest

/-- The number of columns that characters of these widths take up together. -/
def columns (widths : List Nat) : Nat :=
  widths.foldr (· + ·) 0

/-- The number of columns that the first characters of a line take up. -/
def widthOfFirst (count : Nat) (line : Text) : Nat :=
  columns ((cells 0 line).take count |>.map Prod.snd)

/-- A line with a space in place of each column of its tabs. -/
def withoutTabs (line : Text) : Text :=
  (cells 0 line).flatMap fun (c, width) => if c = '\t' then List.replicate width ' ' else [c]

end HtmlTemplate.Diagnostic
