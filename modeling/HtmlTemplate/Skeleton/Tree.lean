import HtmlTemplate.Markup.Token
import HtmlTemplate.Text.Quoted

/-!
# Skeletons

A skeleton is the tree of elements that the markup of a template describes, with the
markers of its interpolations still in names, attribute values and texts.
-/

namespace HtmlTemplate.Skeleton

/-- A part of a skeleton: a text, or an element. An element without a tag only groups
what stands inside it. -/
inductive Part where
  | text (content : Text)
  | element (tag : Option Text) (attributes : List Markup.WrittenAttribute)
      (children : List Part)
deriving Inhabited

/-- A skeleton: one element, or a root without a tag that groups several parts. -/
structure Tree where
  tag : Option Text := none
  /-- The attributes as they are written, in order. -/
  attributes : List Markup.WrittenAttribute := []
  children : List Part := []

namespace Tree

/-- A skeleton as a part of another. -/
def toPart (tree : Tree) : Part :=
  .element tree.tag tree.attributes tree.children

/-- Whether the skeleton only groups its parts. -/
def isRoot (tree : Tree) : Bool :=
  tree.tag.isNone

/-- The texts directly below the root of a skeleton, in order. -/
def texts (tree : Tree) : List Text :=
  tree.children.filterMap fun
    | .text content => some content
    | .element _ _ _ => none

end Tree

/-! ## Outlines -/

/-- An attribute as an outline shows it. -/
def outlineAttribute : Markup.WrittenAttribute → Text
  | (name, some value) => ' ' :: name ++ '=' :: Text.quoted value
  | (name, none) => ' ' :: name

/-- The line of an element, two spaces further in for every level. -/
def outlineElement (depth : Nat) (tag : Option Text)
    (attributes : List Markup.WrittenAttribute) : Text :=
  List.replicate (2 * depth) ' ' ++ tag.getD "#root".toList ++
    attributes.flatMap outlineAttribute ++ ['\n']

mutual

/-- The lines of a part, at a depth. -/
def Part.outline (depth : Nat) : Part → Text
  | .text content => List.replicate (2 * depth) ' ' ++ Text.quoted content ++ ['\n']
  | .element tag attributes children =>
    outlineElement depth tag attributes ++ outlineParts (depth + 1) children

/-- The lines of some parts, at a depth. -/
def outlineParts (depth : Nat) : List Part → Text
  | [] => []
  | part :: rest => part.outline depth ++ outlineParts depth rest

end

/-- The outline of a skeleton: a line for every element and every text. -/
def Tree.outline (tree : Tree) : Text :=
  tree.toPart.outline 0

end HtmlTemplate.Skeleton
