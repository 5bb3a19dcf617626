import HtmlTemplate.Decimal.Numeral
import HtmlTemplate.Dictionary
import HtmlTemplate.Markup.Escape

/-!
# Markup trees

What a template resolves to: a tree of elements and texts in which no placeholder
is left. A tree is written as markup by `Node.render`, and its texts alone are
collected by `Node.textContent`.
-/

namespace HtmlTemplate.Markup

/-- The value of an attribute. -/
inductive Attribute where
  /-- An attribute that is written as its bare name, whichever value it has. -/
  | flag (value : Bool)
  | number (value : Int)
  | text (value : Text)
  /-- Properties with their values, as a style attribute has them. -/
  | declarations (properties : Dictionary Text)
deriving DecidableEq

/-- The attributes of an element, in order. -/
abbrev Attributes := Dictionary Attribute

/-- What stands inside an element: a text, or an element with its tag, its
attributes and what stands inside it. An element without a tag is a fragment. -/
inductive Child where
  | text (content : Text)
  | element (tag : Text) (attributes : Attributes) (children : List Child)
deriving Inhabited

/-- An element, or, if its tag is empty, a fragment: some children without an
element around them. -/
structure Node where
  /-- The name of the element; empty for a fragment. -/
  tag : Text
  /-- The attributes, in order. -/
  attributes : Attributes := []
  /-- What stands inside, in order. -/
  children : List Child := []

/-- A node as a child of another. -/
def Node.toChild (node : Node) : Child :=
  .element node.tag node.attributes node.children

/-- Some children without an element around them. -/
def Node.fragment (children : List Child) : Node :=
  { tag := [], children }

/-- Whether a node has no tag. -/
def Node.isFragment (node : Node) : Bool :=
  node.tag.isEmpty

/-! ## Texts -/

mutual

/-- The texts of a child and of all below it, in order. -/
def Child.textContent : Child → Text
  | .text content => content
  | .element _ _ children => textContentOf children

/-- The texts of some children and of all below them, in order. -/
def textContentOf : List Child → Text
  | [] => []
  | child :: rest => child.textContent ++ textContentOf rest

end

/-- The texts below a node, in order. -/
def Node.textContent (node : Node) : Text :=
  textContentOf node.children

/-! ## Equality -/

/-- Whether two values are equal; declarations are compared without regard to their
order. -/
def Attribute.same : Attribute → Attribute → Bool
  | .declarations properties, .declarations properties' =>
    properties.length = properties'.length &&
      properties.all fun (key, value) => properties'.get? key = some value
  | value, value' => value = value'

/-- Whether two lists of attributes hold the same keys with equal values. -/
def sameAttributes (attributes attributes' : Attributes) : Bool :=
  attributes.length = attributes'.length &&
    attributes.all fun (key, value) =>
      match attributes'.get? key with
      | some value' => value.same value'
      | none => false

mutual

/-- Whether two children are the same tree. -/
def Child.same : Child → Child → Bool
  | .text content, .text content' => content = content'
  | .element tag attributes children, .element tag' attributes' children' =>
    tag = tag' && sameAttributes attributes attributes' && sameChildren children children'
  | _, _ => false

/-- Whether two lists of children are the same trees in the same order. -/
def sameChildren : List Child → List Child → Bool
  | [], [] => true
  | child :: rest, child' :: rest' => child.same child' && sameChildren rest rest'
  | _, _ => false

end

/-- Whether two nodes are the same tree, without regard to the order of
attributes. -/
def Node.same (node node' : Node) : Bool :=
  node.toChild.same node'.toChild

end HtmlTemplate.Markup
