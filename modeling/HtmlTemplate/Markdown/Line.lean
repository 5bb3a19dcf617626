import HtmlTemplate.Text.Basic

/-!
# Lines of a Markdown document

A document is a list of lines. How deep a line is indented is counted in columns: a tab
reaches up to the next multiple of four, and what encloses a line may use up a part of the
columns of one tab. A `Cursor` is a place in a line that remembers this.
-/

namespace HtmlTemplate.Markdown

/-- A line of a document, and the line end behind it. -/
structure Line where
  content : Text
  ending : Text
deriving DecidableEq, Repr

/-- The lines whose contents a line feed separates. Nothing behind the last line feed is no
line. A carriage return at the end of a line belongs to the line end, and does not count if a
line feed follows. -/
def linesOf : List Text → List Line
  | [] => []
  | [last] =>
    let content := Text.dropReturn last
    if last.isEmpty then [] else [{ content, ending := last.drop content.length }]
  | piece :: next :: more =>
    { content := Text.dropReturn piece, ending := ['\n'] } :: linesOf (next :: more)

/-- The lines of a document. -/
def lines (document : Text) : List Line :=
  linesOf (Text.splitOn '\n' document)

/-- Whether a character is a blank within a line. -/
def isLineBlank (c : Char) : Bool :=
  c = ' ' || c = '\t' || c = '\x0b' || c = '\x0c'

/-- Whether the rest of a line has only blanks. -/
def isBlankLine (rest : Text) : Bool :=
  rest.all isLineBlank

/-- A place in a line. -/
structure Cursor where
  /-- What stands behind the place. -/
  rest : Text
  /-- The number of characters since the beginning of the line or the last tab. -/
  column : Nat := 0
  /-- How many columns are left of the tab in front of the place. -/
  tabRest : Nat := 0
deriving DecidableEq, Repr

/-- Passes up to `wanted` columns of blanks at the beginning of a text, and gives the number
of columns that are missing. -/
def skipBlanks (wanted column : Nat) : Text → Nat × Cursor
  | [] => (wanted, { rest := [], column })
  | c :: rest =>
    if wanted = 0 then (0, { rest := c :: rest, column })
    else if c = ' ' then skipBlanks (wanted - 1) (column + 1) rest
    else if c = '\t' then
      let width := 4 - column % 4
      if width ≤ wanted then skipBlanks (wanted - width) 0 rest
      else (0, { rest, column := 0, tabRest := width - wanted })
    else (wanted, { rest := c :: rest, column })

namespace Cursor

/-- Passes up to `wanted` columns of blanks, and gives the number of columns that are
missing. -/
def skip (wanted : Nat) (cursor : Cursor) : Nat × Cursor :=
  if wanted ≤ cursor.tabRest then (0, { cursor with tabRest := cursor.tabRest - wanted })
  else skipBlanks (wanted - cursor.tabRest) cursor.column cursor.rest

/-- Passes a number of characters that are not blanks. -/
def pass (count : Nat) (cursor : Cursor) : Cursor :=
  { cursor with rest := cursor.rest.drop count, column := cursor.column + count }

/-- What stands behind the place, with spaces for the columns left of a tab. -/
def remaining (cursor : Cursor) : Text :=
  List.replicate cursor.tabRest ' ' ++ cursor.rest

end Cursor

end HtmlTemplate.Markdown
