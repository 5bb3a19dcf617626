import HtmlTemplate.Markdown.Line

/-!
# Markers at the beginning of a line

What stands first in a line, behind its indentation, decides what the line is: a heading, a
break, the fence of a code block, an item of a list or a part of a quotation.
-/

namespace HtmlTemplate.Markdown

/-! ## Headings and breaks -/

/-- Whether a line is a thematic break: three or more equal characters among asterisks,
hyphens and low lines, with nothing but blanks in between. -/
def isThematicBreak (line : Text) : Bool :=
  match line with
  | [] => false
  | mark :: _ =>
    (mark = '*' || mark = '-' || mark = '_') &&
      line.all (fun c => c = mark || c = ' ' || c = '\t') &&
      decide (3 ≤ line.count mark)

/-- Whether a line is a heading behind one to six number signs. -/
def isHeading (line : Text) : Bool :=
  let level := (line.takeWhile (· = '#')).length
  0 < level && level ≤ 6 &&
    match line.drop level with
    | [] => true
    | c :: _ => isLineBlank c

/-- Whether a line makes a heading of the paragraph above it. -/
def isUnderline (line : Text) : Bool :=
  match line with
  | [] => false
  | mark :: rest => (mark = '=' || mark = '-') && isBlankLine (rest.dropWhile (· = mark))

/-! ## Fences -/

/-- The fence of a code block: its character, and how often that is written. -/
structure Fence where
  mark : Char
  count : Nat
deriving DecidableEq, Repr

/-- The fence that a line opens a code block with, and what stands behind the fence. Behind
backticks there is no further backtick. -/
def Fence.opening? (line : Text) : Option (Fence × Text) :=
  match line with
  | [] => none
  | mark :: _ =>
    let count := (line.takeWhile (· = mark)).length
    let info := line.drop count
    if (mark = '`' && !info.contains '`' || mark = '~') && 3 ≤ count then
      some ({ mark, count }, info)
    else none

/-- Whether a line is a closing fence: it is at least as long as the opening one, and only
spaces follow. -/
def Fence.isClosedBy (fence : Fence) (line : Text) : Bool :=
  let count := (line.takeWhile (· = fence.mark)).length
  fence.count ≤ count && (line.drop count).all (· = ' ')

/-! ## List items -/

/-- The marker of a list item: its last character, and its number, which is zero for a
bullet. -/
structure ItemMarker where
  mark : Char
  number : Nat
  /-- The number of characters. -/
  length : Nat
deriving DecidableEq, Repr

/-- Whether a character is the bullet of a list item. -/
def isBullet (c : Char) : Bool :=
  c = '-' || c = '+' || c = '*'

/-- The marker at the beginning of a line: a bullet, or up to nine digits with a full stop
or a parenthesis. What follows is not looked at. -/
def itemMarker? (line : Text) : Option ItemMarker :=
  match line with
  | [] => none
  | first :: _ =>
    if isBullet first then some { mark := first, number := 0, length := 1 }
    else
      let digits := line.takeWhile Text.isAsciiDigit
      match Text.toNat? 10 digits, line.drop digits.length with
      | some number, mark :: _ =>
        if digits.length ≤ 9 ∧ (mark = '.' ∨ mark = ')') then
          some { mark, number, length := digits.length + 1 }
        else none
      | _, _ => none

/-- Whether an item marker at the beginning of a line may end a paragraph, although the line
lies in whatever the paragraph lies in. A numbered item has to have the number one, and the
item is not empty: a blank line behind a marker on its own shows that it is. -/
def ItemMarker.interrupts (marker : ItemMarker) (line : Text) (next : Option Text) : Bool :=
  let behind := line.drop marker.length
  let isEmpty := isBlankLine behind && (next.getD []).all isLineBlank
  (isBullet marker.mark || marker.number = 1) && !isEmpty

/-- The marker at the beginning of a line, if a blank or the end of the line follows. -/
def separateItemMarker? (line : Text) : Option ItemMarker :=
  match itemMarker? line with
  | none => none
  | some marker =>
    match line.drop marker.length with
    | [] => some marker
    | c :: _ => if c = ' ' ∨ c = '\t' then some marker else none

end HtmlTemplate.Markdown
