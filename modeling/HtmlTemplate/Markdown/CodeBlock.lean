import HtmlTemplate.Markdown.HtmlBlock
import HtmlTemplate.Markdown.Marker
import HtmlTemplate.Text.Blank

/-!
# Fenced code blocks

The fenced code blocks of a Markdown document. They can stand in quotations and in list
items, whose markers and indentation do not belong to the code. Of all else in a document
only so much is read as decides whether a line opens a code block.
-/

namespace HtmlTemplate.Markdown

/-- A fenced code block: the first word behind its opening fence, and its lines. -/
structure CodeBlock where
  language : Text
  content : Text
deriving DecidableEq, Repr

/-! ## The language of a code block -/

/-- Whether a character is one of the ASCII marks and symbols. -/
def isAsciiPunctuation (c : Char) : Bool :=
  '!' ≤ c && c ≤ '~' && !isAsciiWord c

/-- The character with a given number, or the replacement character if there is none. -/
def numberedChar (code : Nat) : Char :=
  if code ≠ 0 ∧ code.isValidChar then Char.ofNat code else '\uFFFD'

/-- The character of a numeric reference behind the `&`, and how many characters the
reference takes. -/
def numericReference? (text : Text) : Option (Char × Nat) :=
  let finish (digits : Text) (base limit announced : Nat) : Option (Char × Nat) :=
    match Text.toNat? base digits with
    | some code =>
      if digits.length ≤ limit ∧ (text.drop (announced + digits.length)).head? = some ';' then
        some (numberedChar code, announced + digits.length + 1)
      else none
    | none => none
  match text with
  | '#' :: c :: rest =>
    if c = 'x' ∨ c = 'X' then
      finish (rest.takeWhile fun c => (Text.digitValue? 16 c).isSome) 16 6 2
    else finish ((c :: rest).takeWhile Text.isAsciiDigit) 10 7 1
  | _ => none

/-- A text with its escapes and numeric references decoded; `room` bounds the number of
steps. -/
def decodeInfo : Nat → Text → Text
  | 0, text => text
  | _, [] => []
  | room + 1, c :: rest =>
    match c, rest with
    | '\\', escaped :: behind =>
      if isAsciiPunctuation escaped then escaped :: decodeInfo room behind
      else c :: decodeInfo room rest
    | '&', _ =>
      match numericReference? rest with
      | some (decoded, length) => decoded :: decodeInfo room (rest.drop length)
      | none => c :: decodeInfo room rest
    | _, _ => c :: decodeInfo room rest

/-- The first word of what stands behind an opening fence. -/
def languageOf (info : Text) : Text :=
  Text.firstWord (decodeInfo info.length info)

/-! ## What a line lies in -/

/-- What encloses lines of a document. -/
inductive Container where
  | quotation
  /-- An item of a list. Its lines are indented by a number of columns. -/
  | item (indent : Nat)
deriving DecidableEq, Repr

/-- Passes the marker of a quotation. -/
def quotation? (cursor : Cursor) : Option Cursor :=
  let cursor := (cursor.skip 3).2
  if cursor.rest.head? = some '>' then some ((cursor.pass 1).skip 1).2 else none

/-- Passes what a line that goes on in a container begins with. A blank line goes on in a
list item even if it is not indented. -/
def Container.continue? : Container → Cursor → Option Cursor
  | .quotation, cursor => quotation? cursor
  | .item indent, cursor =>
    let (missing, behind) := cursor.skip indent
    if missing = 0 ∨ behind.rest.isEmpty then some behind else none

/-- The containers in which a line goes on, from the outermost one on, and the place behind
what shows this. -/
def goesOn : List Container → Cursor → List Container × Cursor
  | [], cursor => ([], cursor)
  | container :: inner, cursor =>
    match container.continue? cursor with
    | none => ([], cursor)
    | some behind =>
      let (more, cursor) := goesOn inner behind
      (container :: more, cursor)

/-- The containers that a line opens. -/
structure Opened where
  containers : List Container := []
  /-- The place behind their markers. -/
  cursor : Cursor
  /-- The last of them is a list item and the line ends behind its marker. -/
  endsEmpty : Bool := false

/-- The list item that a line opens behind some columns of indentation: how far its lines
are indented, and the place of its content. Content that is indented by four or more columns
is a code block of the item. -/
def itemContent (outer : Nat) (marker : ItemMarker) (cursor : Cursor) : Nat × Cursor :=
  let behind := ((cursor.pass marker.length).skip 1).2
  let indent := outer + marker.length + 1
  let (missing, inner) := behind.skip 4
  if isBlankLine behind.rest ∨ missing = 0 then (indent, behind)
  else (indent + (4 - missing), inner)

/-- The containers that a line opens at a place; `room` bounds their number. -/
def openContainers : Nat → Cursor → Opened
  | 0, cursor => { cursor }
  | room + 1, cursor =>
    let (missing, inner) := cursor.skip 4
    let marker? := if isThematicBreak inner.rest then none else separateItemMarker? inner.rest
    if missing = 0 then { cursor }
    else
      match marker? with
      | some marker =>
        let (indent, behind) := itemContent (4 - missing) marker inner
        if isBlankLine behind.rest then
          { containers := [.item indent], cursor := behind, endsEmpty := true }
        else
          let opened := openContainers room behind
          { opened with containers := .item indent :: opened.containers }
      | none =>
        match quotation? inner with
        | some behind =>
          let opened := openContainers room behind
          { opened with containers := .quotation :: opened.containers }
        | none => { cursor }

/-! ## The walk along the lines -/

/-- What is open inside the containers. -/
inductive Leaf where
  | nothing
  | paragraph
  | html (stop : HtmlEnd)
  /-- A code block, with the indentation of its fence and the lines so far. -/
  | code (fence : Fence) (indent : Nat) (block : CodeBlock)
deriving DecidableEq, Repr

/-- How far a document has been read. -/
structure Walk where
  /-- What is open, from the outermost on. -/
  containers : List Container := []
  leaf : Leaf := .nothing
  /-- The innermost container is a list item that has no content yet. -/
  inEmptyItem : Bool := false
  /-- The code blocks that are closed, the latest first. -/
  blocks : List CodeBlock := []

namespace Walk

/-- Closes what is open inside the containers. -/
def closeLeaf (walk : Walk) : Walk :=
  match walk.leaf with
  | .code _ _ block => { walk with leaf := .nothing, blocks := block :: walk.blocks }
  | _ => { walk with leaf := .nothing }

/-- What a line opens at a place behind its containers. -/
def leafAt (cursor : Cursor) : Leaf :=
  let (missing, inner) := cursor.skip 4
  let line := inner.rest
  if missing = 0 then .nothing
  else
    match html? line with
    | some (.withLine needle) =>
      if Text.occurs needle line then .nothing else .html (.withLine needle)
    | some .beforeBlank => .html .beforeBlank
    | none =>
      if isThematicBreak line || isHeading line then .nothing
      else
        match Fence.opening? line with
        | some (fence, info) =>
          .code fence (4 - missing) { language := languageOf info, content := [] }
        | none => .paragraph

/-- Reads a line with which nothing inside the containers goes on. A list item cannot begin
with two blank lines. -/
def readFresh (walk : Walk) (line : Line) : Walk :=
  let walk := walk.closeLeaf
  let (same, cursor) := goesOn walk.containers { rest := line.content }
  let opened := openContainers (line.content.length + 1) cursor
  let containers := same ++ opened.containers
  if opened.endsEmpty then { walk with containers, inEmptyItem := true }
  else if isBlankLine opened.cursor.rest then
    let leaves :=
      walk.inEmptyItem && opened.containers.isEmpty && same.length = walk.containers.length
    { walk with
      containers := if leaves then containers.dropLast else containers, inEmptyItem := false }
  else { walk with containers, inEmptyItem := false, leaf := leafAt opened.cursor }

/-- Whether a line ends the paragraph above it. -/
def endsParagraph (isInside : Bool) (line : Text) (next : Option Text) : Bool :=
  isThematicBreak line || isHeading line || (Fence.opening? line).isSome ||
    line.head? = some '>' || (interruptingHtml? line).isSome ||
    (separateItemMarker? line).any fun marker => !isInside || marker.interrupts line next

/-- Reads the line behind a line of a paragraph. A line that cannot be anything else goes on
with the paragraph, even if it does not go on in the containers. -/
def readInParagraph (walk : Walk) (line : Line) (next : Option Text) : Walk :=
  let (same, cursor) := goesOn walk.containers { rest := line.content }
  let isInside := decide (same.length = walk.containers.length)
  let (missing, inner) := cursor.skip 4
  if isBlankLine inner.rest then walk.readFresh line
  else if missing = 0 then walk
  else if isInside && isUnderline inner.rest then walk.closeLeaf
  else if endsParagraph isInside inner.rest next then walk.readFresh line
  else walk

/-- Reads the line behind a line of a code block. -/
def readInCode (walk : Walk) (fence : Fence) (indent : Nat) (block : CodeBlock) (line : Line) :
    Walk :=
  let (same, cursor) := goesOn walk.containers { rest := line.content }
  if same.length < walk.containers.length then walk.readFresh line
  else
    let cursor := (cursor.skip indent).2
    let (missing, inner) := cursor.skip (4 - indent)
    if missing ≠ 0 ∧ fence.isClosedBy inner.rest then walk.closeLeaf
    else
      let content := block.content ++ cursor.remaining ++ line.ending
      { walk with leaf := .code fence indent { block with content } }

/-- Reads the line behind a line of a block of HTML. -/
def readInHtml (walk : Walk) (stop : HtmlEnd) (line : Line) : Walk :=
  let (same, cursor) := goesOn walk.containers { rest := line.content }
  if same.length < walk.containers.length then walk.readFresh line
  else
    match stop with
    | .withLine needle => if Text.occurs needle cursor.rest then walk.closeLeaf else walk
    | .beforeBlank => if isBlankLine cursor.rest then walk.readFresh line else walk

/-- Reads a line; `next` is the content of the line behind it. -/
def read (walk : Walk) (line : Line) (next : Option Text) : Walk :=
  match walk.leaf with
  | .nothing => walk.readFresh line
  | .paragraph => walk.readInParagraph line next
  | .html stop => walk.readInHtml stop line
  | .code fence indent block => walk.readInCode fence indent block line

/-- Reads some lines. -/
def readAll (walk : Walk) : List Line → Walk
  | [] => walk
  | line :: rest => (walk.read line (rest.head?.map Line.content)).readAll rest

end Walk

/-- The fenced code blocks of a document, in order. A block without a closing fence ends with
what it lies in. -/
def codeBlocks (document : Text) : List CodeBlock :=
  (({} : Walk).readAll (lines document)).closeLeaf.blocks.reverse

end HtmlTemplate.Markdown
