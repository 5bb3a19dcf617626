import HtmlTemplate.Markup.Render
import HtmlTemplate.Resolve.Convert
import HtmlTemplate.Skeleton.Builder

/-!
# Filled skeletons

Filling replaces every marker of a skeleton by what the value of its interpolation
gives there. Every interpolation is evaluated once for each of its markers: first those
inside an element, then those of its attributes, then those of its name.
-/

namespace HtmlTemplate.Resolve

open Markup (Attribute Attributes Child Node)
open Skeleton (Part Tree)

/-- Which value an attribute has that both a node in a tag name and the place it is put
at set. -/
inductive MergePolicy where
  /-- The value of the node. -/
  | nodeWins
  /-- The value at the place. -/
  | callSiteWins
deriving DecidableEq, Repr

/-- What is needed to fill a skeleton: the items it was built from, and who knows their
values. -/
structure Filling (σ : Type) where
  host : Host σ
  items : List Item
  policy : MergePolicy := .nodeWins

/-- A piece of a text with markers: literal text, or the interpolation of an index. -/
inductive Piece where
  | literal (text : Text)
  | interpolation (index : Nat) (interpolation : Interpolation)

/-- A node put at a place with attributes and children of its own. -/
def merge (policy : MergePolicy) (node : Node) (attributes : Attributes)
    (children : List Child) : Node :=
  { tag := node.tag
    attributes := match policy with
      | .nodeWins => node.attributes.extendNew attributes
      | .callSiteWins => node.attributes.extend attributes
    children := node.children ++ children }

/-- The only one of some fragments. -/
def single {σ α : Type} (place : String) : List α → Resolution σ α
  | [fragment] => pure fragment
  | fragments => throw (.notSingle place fragments.length)

namespace Filling

variable {σ : Type} (filling : Filling σ)

/-- The piece of a segment; a marker must belong to an interpolation. -/
def piece : Skeleton.Segment → Except Error Piece
  | .literal text => .ok (.literal text)
  | .marker index =>
    match filling.items[index]?.bind Item.interpolation? with
    | some interpolation => .ok (.interpolation index interpolation)
    | none => .error (.danglingMarker index)

/-- The pieces of a text with markers. -/
def pieces (text : Text) : Except Error (List Piece) :=
  (Skeleton.split text).mapM filling.piece

/-- The value of an interpolation for one of its markers. One with a conversion or a
specifier is formatted to a text. -/
def evaluate (index : Nat) (interpolation : Interpolation) : Resolution σ Value := do
  recordEvaluation index
  let value ← useHost (interpolation.value filling.host)
  if interpolation.conversion.isNone && (interpolation.spec.getD []).isEmpty then
    pure value
  else
    match Format.formatValue value interpolation.conversion interpolation.spec with
    | .ok text => pure (.text text)
    | .error error => throw (.format error)

/-- The fragments of a text with markers: literal text gives one each, and what the
interpolations give is put in between. -/
def fill {α : Type} (ofLiteral : Text → α) (convert : Value → Resolution σ (Converted α))
    (text : Text) : Resolution σ (List α) := do
  match filling.pieces text with
  | .error error => throw error
  | .ok pieces =>
    let fragments ← pieces.mapM fun
      | .literal text => pure [ofLiteral text]
      | .interpolation index interpolation => do
        let value ← filling.evaluate index interpolation
        let converted ← convert value
        pure converted.toList
    pure fragments.flatten

/-- The children that a text with markers gives. -/
def fillChild (text : Text) : Resolution σ (List Child) :=
  filling.fill .text (convertChild filling.host) text

/-- The fragments that a text with markers gives in the name of an attribute with a
value. -/
def fillAttributeKey (text : Text) : Resolution σ (List Text) :=
  filling.fill id convertAttributeKey text

/-- The fragments that a text with markers gives in the value of an attribute. -/
def fillAttributeValue (text : Text) : Resolution σ (List AttributePart) :=
  filling.fill .text convertAttributeValue text

/-- The fragments that a text with markers gives in the name of a tag. -/
def fillName (text : Text) : Resolution σ (List NamePart) :=
  filling.fill .text (convertName filling.host) text

/-- The attributes that an attribute without a value gives: every entry of a map, or the
name as a flag. -/
def fillBareAttribute (key : Text) : Resolution σ Attributes := do
  let part ← single "attribute" (← filling.fillAttributeValue key)
  match part with
  | .map entries =>
    let attributes ← entries.mapM fun (name, value) => do
      let name ← attributeName name
      let value ← spreadValue value
      pure (name, value)
    pure (Dictionary.ofList attributes)
  | .text name =>
    let name ← attributeName name
    pure [(name, .flag true)]

/-- The attribute that a name and a value give. -/
def fillValuedAttribute (key value : Text) : Resolution σ Attributes := do
  let name ← single "attribute key" (← filling.fillAttributeKey key)
  let name ← attributeName name
  let parts ← filling.fillAttributeValue value
  match parts with
  | [] => pure [(name, .text [])]
  | [.text text] => pure [(name, .text text)]
  | [.map entries] => pure [(name, .declarations (declarations entries))]
  | parts => throw (.notSingle "attribute" parts.length)

/-- The attributes that an attribute gives as it is written. -/
def fillAttribute (key : Text) : Option Text → Resolution σ Attributes
  | none => filling.fillBareAttribute key
  | some value => filling.fillValuedAttribute key value

/-- The attributes that the attributes of a start tag give, one after the other. -/
def fillAttributes (written : List Markup.WrittenAttribute) : Resolution σ Attributes := do
  let attributes ← written.mapM fun (key, value) => filling.fillAttribute key value
  pure (attributes.foldl Dictionary.extend [])

/-- The text of a tag's name, if none of its parts is a node. -/
def nameText? (parts : List NamePart) : Option Text :=
  let text? : NamePart → Option Text
    | .text text => some text
    | .node _ => none
  (parts.mapM text?).map List.flatten

/-- The node with a given tag, attributes and children. A node in place of the name is
put there with the attributes and children; no tag at all gives a fragment. -/
def fillTag (tag : Option Text) (attributes : Attributes) (children : List Child) :
    Resolution σ Node := do
  match tag with
  | none => pure (Node.fragment children)
  | some tag =>
    match ← filling.fillName tag with
    | [.node node] => pure (merge filling.policy node attributes children)
    | parts =>
      match nameText? parts with
      | none => throw (.ambiguousComponent parts.length)
      | some name =>
        if isTagName name then pure { tag := name, attributes, children }
        else throw (.invalidTagName name)

mutual

/-- The children that a part of a skeleton gives. -/
def fillPart : Part → Resolution σ (List Child)
  | .text content => filling.fillChild content
  | .element tag written parts => do
    let children ← fillParts parts
    let attributes ← filling.fillAttributes written
    let node ← filling.fillTag tag attributes children
    pure [node.toChild]

/-- The children that some parts of a skeleton give, in order. -/
def fillParts : List Part → Resolution σ (List Child)
  | [] => pure []
  | part :: parts => do
    let children ← fillPart part
    let more ← fillParts parts
    pure (children ++ more)

end

/-- The node that a skeleton gives. -/
def fillTree (tree : Tree) : Resolution σ Node := do
  let children ← filling.fillParts tree.children
  let attributes ← filling.fillAttributes tree.attributes
  filling.fillTag tree.tag attributes children

end Filling

/-- The node that some items make up: their markup read as a skeleton, and the skeleton
filled with their values. -/
def render {σ : Type} (host : Host σ) (items : List Item) (policy : MergePolicy) :
    Resolution σ Node := do
  match Skeleton.ofItems items with
  | .error error => throw error
  | .ok tree => Filling.fillTree { host, items, policy } tree

/-- The node that some items make up if their values are plain data: none is a sequence or
a component, and none is deferred. -/
def renderPlain (items : List Item) (policy : MergePolicy) : Except Error Node :=
  match render Host.none items policy { state := () } with
  | .ok node _ => .ok node
  | .error error _ => .error error

end HtmlTemplate.Resolve
