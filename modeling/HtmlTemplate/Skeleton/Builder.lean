import HtmlTemplate.Error
import HtmlTemplate.Markup.Tokenizer
import HtmlTemplate.Skeleton.Marker
import HtmlTemplate.Skeleton.Tree
import HtmlTemplate.Template.Basic

/-!
# Skeletons built from items

A `Builder` is fed the items of a template one at a time: literal text, with its dollar
signs protected, and a marker for every interpolation. It keeps the elements that are
open; the index of an item goes with every fault that comes to light in it.
-/

namespace HtmlTemplate.Skeleton

/-- An element whose end has not been read yet. -/
structure OpenElement where
  tag : Text
  attributes : List Markup.WrittenAttribute
  /-- What stands inside so far, in order. -/
  children : List Part := []
  /-- The item in which its start tag was completed. -/
  item : Nat

/-- An element that has come to its end. -/
def OpenElement.toPart (element : OpenElement) : Part :=
  .element (some element.tag) element.attributes element.children

/-- A skeleton under construction. -/
structure Builder where
  tokenizer : Markup.Tokenizer := {}
  /-- The open elements, innermost first. -/
  opened : List OpenElement := []
  /-- What stands outside of all elements so far, in order. -/
  roots : List Part := []
  /-- The index of the next item. -/
  index : Nat := 0
  /-- The expressions of the interpolations so far, by their index. -/
  exprs : List (Nat × Text) := []

/-- The text by which the item with a given index goes into the markup. -/
def marked (index : Nat) : Item → Text
  | .text chunk => protect chunk.decoded
  | .interpolation _ => marker index

namespace Builder

/-- The builder with a further part in the innermost open element. -/
def append (builder : Builder) (part : Part) : Builder :=
  match builder.opened with
  | [] => { builder with roots := builder.roots ++ [part] }
  | element :: outer =>
    { builder with
      opened := { element with children := element.children ++ [part] } :: outer }

/-- The builder with the innermost element, which is given, ended. -/
def finish (builder : Builder) (element : OpenElement) (outer : List OpenElement) : Builder :=
  { builder with opened := outer }.append element.toPart

/-- A tag's name with the expression in braces for every marker in it. Names are
compared and shown in this form. -/
def recover (builder : Builder) (name : Text) : Text :=
  substitute (fun index =>
    match builder.exprs.lookup index with
    | some expr => '{' :: expr ++ ['}']
    | none => marker index) name

/-- The builder behind one more token, which was completed in a given item. -/
def handle (builder : Builder) (token : Markup.Token) (item : Nat) : Except Error Builder :=
  match token with
  | .startTag name attributes true =>
    .ok (builder.append (.element (some name) attributes []))
  | .startTag name attributes false =>
    .ok { builder with opened := { tag := name, attributes, item } :: builder.opened }
  | .endTag name =>
    match builder.opened with
    | [] => .error (.strayClosingTag (builder.recover name) item)
    | element :: outer =>
      let expected := builder.recover element.tag
      let found := builder.recover name
      if expected = found then .ok (builder.finish element outer)
      else .error (.mismatchedTag expected found item)
  | .genericClose =>
    match builder.opened with
    | [] => .error (.strayClosingTag ['/'] item)
    | element :: outer => .ok (builder.finish element outer)
  | .text content => .ok (builder.append (.text content))

/-- The builder behind some more tokens, up to the first fault; a fault leaves the
builder as it was in front of the token. -/
def handleAll (builder : Builder) (item : Nat) :
    List Markup.Token → Except Error Unit × Builder
  | [] => (.ok (), builder)
  | token :: tokens =>
    match builder.handle token item with
    | .ok builder => builder.handleAll item tokens
    | .error error => (.error error, builder)

/-- The builder behind one more item, and the first fault in it if there is one. -/
def feed (builder : Builder) (item : Item) : Except Error Unit × Builder :=
  let index := builder.index
  let (tokens, tokenizer) := builder.tokenizer.feed (marked index item)
  let exprs := match item.interpolation? with
    | some interpolation => (index, interpolation.expr) :: builder.exprs
    | none => builder.exprs
  { builder with tokenizer, exprs, index := index + 1 }.handleAll index tokens

/-- The skeleton, now that all items have been fed. A single element outside of all
others is the skeleton itself; anything else comes under a root. -/
def result (builder : Builder) : Except Error Tree :=
  match builder.handleAll (builder.index - 1) builder.tokenizer.close.1 with
  | (.error error, _) => .error error
  | (.ok (), builder) =>
    match builder.opened with
    | element :: _ => .error (.unclosedTag (builder.recover element.tag) element.item)
    | [] =>
      match builder.roots with
      | [] => .error .empty
      | [.element tag attributes children] => .ok { tag, attributes, children }
      | children => .ok { children }

/-- The builder behind some more items, or the first fault in them. -/
def feedAll (builder : Builder) : List Item → Except Error Builder
  | [] => .ok builder
  | item :: items =>
    match builder.feed item with
    | (.ok (), builder) => builder.feedAll items
    | (.error error, _) => .error error

end Builder

/-- The skeleton of the markup that some items make up. -/
def ofItems (items : List Item) : Except Error Tree :=
  (Builder.feedAll {} items).bind Builder.result

end HtmlTemplate.Skeleton
