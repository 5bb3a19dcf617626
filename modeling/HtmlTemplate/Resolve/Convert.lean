import HtmlTemplate.Resolve.Name
import HtmlTemplate.Resolve.Session

/-!
# Values in their places

What a value becomes depends on the place it goes to: inside an element, into the name
or the value of an attribute, or into the name of a tag. Inside an element lists,
sequences, components and maps are flattened, within limits that make flattening end
for every value.
-/

namespace HtmlTemplate.Resolve

open Markup (Attribute Child Node escape)

variable {σ : Type}

/-- How deep lists, sequences, components and maps may be nested in one place. -/
def depthLimit : Nat := 256

/-- How many values are taken from one sequence at most. -/
def sequenceLimit : Nat := 100000

/-- The fragments that one value gives: a single one, or any number of them. -/
inductive Converted (α : Type) where
  | one (fragment : α)
  | many (fragments : List α)

/-- The fragments, in order. -/
def Converted.toList {α : Type} : Converted α → List α
  | .one fragment => [fragment]
  | .many fragments => fragments

/-- The failure of a value that has the wrong kind for its place. -/
def wrongKind {α : Type} (expected : String) (value : Value) : Resolution σ α :=
  throw (.wrongKind expected (value.kind.toList ++ ' ' :: value.repr))

/-! ## Inside an element -/

/-- The children that the remaining values of a sequence give, if there are at most
`left` of them; `taken` holds the children given so far, latest first. -/
def drain (host : Host σ) (id : Nat) (convert : Value → Resolution σ (List Child)) :
    Nat → List (List Child) → Resolution σ (List Child)
  | 0, taken => do
    match ← useHost (host.pull id) with
    | none => pure taken.reverse.flatten
    | some _ => throw (.tooManyValues sequenceLimit)
  | left + 1, taken => do
    match ← useHost (host.pull id) with
    | none => pure taken.reverse.flatten
    | some value =>
      let children ← convert value
      drain host id convert left (children :: taken)

/-- The children that a value gives, if it is nested less than `room` deep. Text is
escaped, a map gives its keys, and what is neither text, node nor container is shown by
its display. -/
def flatten (host : Host σ) : Nat → Value → Resolution σ (List Child)
  | 0, _ => throw (.nestingTooDeep depthLimit)
  | room + 1, value =>
    match value with
    | .markup node => pure (if node.isFragment then node.children else [node.toChild])
    | .text text => pure [.text (escape text)]
    | .list items => do
      let children ← items.mapM (flatten host room)
      pure children.flatten
    | .map entries => do
      let children ← entries.mapM fun (key, _) => flatten host room (.text key)
      pure children.flatten
    | .sequence id => drain host id (flatten host room) sequenceLimit []
    | .component _ id => do
      let value ← useHost (host.call id)
      flatten host room value
    | other => pure [.text (escape other.display)]

/-- What a value gives inside an element. -/
def convertChild (host : Host σ) (value : Value) : Resolution σ (Converted Child) := do
  match ← flatten host (depthLimit + 1) value with
  | [child] => pure (.one child)
  | children => pure (.many children)

/-! ## In an attribute -/

/-- The name of an attribute, if it is valid. -/
def attributeName (name : Text) : Resolution σ Text :=
  if isAttributeName name then pure name else throw (.invalidAttributeName name)

/-- What a value gives in the name of an attribute with a value: only a text that is a
valid name will do. -/
def convertAttributeKey (value : Value) : Resolution σ (Converted Text) :=
  match value with
  | .text text => do
    let name ← attributeName (escape text)
    pure (.one name)
  | other => wrongKind "str" other

/-- A fragment of an attribute's value, or of an attribute without one. -/
inductive AttributePart where
  | text (text : Text)
  | map (entries : Dictionary Value)

/-- What a value gives in the value of an attribute, or for the whole attribute. -/
def convertAttributeValue (value : Value) : Resolution σ (Converted AttributePart) :=
  match value with
  | .map entries => pure (.one (.map entries))
  | .text text => pure (.one (.text (escape text)))
  | .int n => pure (.one (.text (Decimal.integer n)))
  | other => wrongKind "map, str or int" other

/-- The display of every value under its key. -/
def declarations (entries : Dictionary Value) : Dictionary Text :=
  Dictionary.ofList (entries.map fun (property, value) => (property, value.display))

/-- What an entry of a map gives when the map stands for attributes. -/
def spreadValue (value : Value) : Resolution σ Attribute :=
  match value with
  | .bool value => pure (.flag value)
  | .int n => pure (.number n)
  | .text text => pure (.text text)
  | .float x => pure (.text x.display)
  | .map entries => pure (.declarations (declarations entries))
  | other => wrongKind "bool, int, str or map" other

/-! ## In a tag name -/

/-- A fragment of a tag's name. -/
inductive NamePart where
  | text (text : Text)
  | node (node : Node)

/-- What a value gives in the name of a tag, if at most `calls` components have to be
called one after the other. -/
def namePart (host : Host σ) : Nat → Value → Resolution σ NamePart
  | 0, .component _ _ => throw (.nestingTooDeep depthLimit)
  | calls + 1, .component _ id => do
    let value ← useHost (host.call id)
    namePart host calls value
  | _, .markup node => pure (.node node)
  | _, .text text => pure (.text text)
  | _, .int n => pure (.text (Decimal.integer n))
  | _, other => wrongKind "html, str or int" other

/-- What a value gives in the name of a tag. -/
def convertName (host : Host σ) (value : Value) : Resolution σ (Converted NamePart) := do
  let part ← namePart host depthLimit value
  pure (.one part)

end HtmlTemplate.Resolve
