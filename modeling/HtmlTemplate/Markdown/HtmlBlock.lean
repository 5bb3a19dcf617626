import HtmlTemplate.Markdown.Line

/-!
# HTML in Markdown

A line that begins with a tag begins a block of HTML, in which no Markdown is read. How the
line begins decides where the block ends.
-/

namespace HtmlTemplate.Markdown

/-- Where a block of HTML ends. -/
inductive HtmlEnd where
  /-- With the first line that holds a given text. -/
  | withLine (needle : Text)
  /-- In front of the next blank line. -/
  | beforeBlank
deriving DecidableEq, Repr

/-- Whether two texts are equal but for the case of ASCII letters. -/
def sameLetters (first second : Text) : Bool :=
  first.map Text.asciiLower == second.map Text.asciiLower

/-! ## Blocks that end with a line -/

/-- The elements whose content is text. A block that begins with one of them ends with the
line of its end tag. -/
def verbatimElements : List String :=
  ["pre", "style", "script", "textarea"]

/-- Whether a text begins with a name in letters of any case, and a blank, the end of the tag
or the end of the line follows. -/
def beginsWithName (name text : Text) : Bool :=
  sameLetters (text.take name.length) name &&
    match text.drop name.length with
    | [] => true
    | c :: _ => isLineBlank c || c = '>'

/-- The text that ends the block whose first line begins with `<` and goes on like this, if
the block ends with a line. -/
def endingText? (tag : Text) : Option Text :=
  match verbatimElements.find? fun name => beginsWithName name.toList tag with
  | some name => some ("</" ++ name ++ ">").toList
  | none =>
    if "!--".toList.isPrefixOf tag then some "-->".toList
    else if "?".toList.isPrefixOf tag then some "?>".toList
    else if "![CDATA[".toList.isPrefixOf tag then some "]]>".toList
    else
      match tag with
      | '!' :: c :: _ => if Text.isAsciiLetter c then some ['>'] else none
      | _ => none

/-! ## Blocks that end before a blank line -/

/-- The elements whose tags begin a block wherever they stand at the beginning of a line. -/
def blockElements : List String :=
  ["address", "article", "aside", "base", "basefont", "blockquote", "body", "caption", "center",
    "col", "colgroup", "dd", "details", "dialog", "dir", "div", "dl", "dt", "fieldset",
    "figcaption", "figure", "footer", "form", "frame", "frameset", "h1", "h2", "h3", "h4", "h5",
    "h6", "head", "header", "hr", "html", "iframe", "legend", "li", "link", "main", "menu",
    "menuitem", "nav", "noframes", "ol", "optgroup", "option", "p", "param", "search", "section",
    "summary", "table", "tbody", "td", "tfoot", "th", "thead", "title", "tr", "track", "ul"]

/-- The rest of a text behind one given character, or else the text itself. -/
def dropOptional (c : Char) : Text → Text
  | [] => []
  | first :: rest => if first = c then rest else first :: rest

/-- Whether a character is an ASCII letter or digit. -/
def isAsciiWord (c : Char) : Bool :=
  Text.isAsciiLetter c || Text.isAsciiDigit c

/-- Whether the tag of a block element begins behind the `<`. -/
def beginsBlockElement (tag : Text) : Bool :=
  let tag := dropOptional '/' tag
  let name := tag.takeWhile isAsciiWord
  blockElements.any (fun element => sameLetters element.toList name) &&
    match tag.drop name.length with
    | [] => true
    | c :: rest => c = ' ' || c = '\t' || c = '>' || (c = '/' && rest.head? = some '>')

/-! ## Complete tags -/

/-- The text less the blanks at its beginning. -/
def dropBlanks (text : Text) : Text :=
  text.dropWhile isLineBlank

/-- What stands behind the value of an attribute. -/
def afterValue? (text : Text) : Option Text :=
  match text with
  | [] => none
  | quote :: rest =>
    if quote = '\"' ∨ quote = '\'' then (Text.splitOnce quote rest).map Prod.snd
    else
      let isPlain (c : Char) : Bool := !isLineBlank c && !"\"'=<>`".contains c
      if isPlain quote then some (text.dropWhile isPlain) else none

/-- What stands behind an attribute and its value, if it has one. -/
def afterAttribute? (text : Text) : Option Text :=
  match text with
  | [] => none
  | first :: rest =>
    if Text.isAsciiLetter first ∨ first = '_' ∨ first = ':' then
      let behind := rest.dropWhile fun c => isAsciiWord c || "_.:-".contains c
      match dropBlanks behind with
      | '=' :: value => afterValue? (dropBlanks value)
      | _ => some behind
    else none

/-- What stands behind the attributes of a tag, each of which has a blank in front of it, and
behind the blanks that follow; `room` bounds the number of attributes. -/
def afterAttributes? : Nat → Text → Option Text
  | 0, _ => none
  | room + 1, text =>
    match dropBlanks text with
    | [] => none
    | c :: rest =>
      if c = '/' ∨ c = '>' then some (c :: rest)
      else if text.head?.any isLineBlank then
        (afterAttribute? (c :: rest)).bind (afterAttributes? room)
      else none

/-- Whether a complete tag of any element stands behind the `<`, with nothing but blanks
behind it. -/
def isCompleteTag (tag : Text) : Bool :=
  let isNameChar (c : Char) : Bool := isAsciiWord c || c = '-'
  let isEndTag := tag.head? = some '/'
  let tag := dropOptional '/' tag
  let behind? : Option Text :=
    if tag.head?.any Text.isAsciiLetter then
      let behind := tag.dropWhile isNameChar
      if isEndTag then some (dropBlanks behind)
      else (afterAttributes? (behind.length + 1) behind).map (dropOptional '/')
    else none
  match behind? with
  | some ('>' :: rest) => isBlankLine rest
  | _ => false

/-! ## All blocks -/

/-- Where the block of HTML ends that a line begins, if it begins one that can end a
paragraph. -/
def interruptingHtml? (line : Text) : Option HtmlEnd :=
  match line with
  | '<' :: tag =>
    match endingText? tag with
    | some needle => some (.withLine needle)
    | none => if beginsBlockElement tag then some .beforeBlank else none
  | _ => none

/-- Where the block of HTML ends that a line begins, if it begins one. -/
def html? (line : Text) : Option HtmlEnd :=
  match interruptingHtml? line with
  | some stop => some stop
  | none =>
    match line with
    | '<' :: tag => if isCompleteTag tag then some .beforeBlank else none
    | _ => none

end HtmlTemplate.Markdown
