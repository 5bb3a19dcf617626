import HtmlTemplate.Decimal.Binary64
import HtmlTemplate.Markup.Node

/-!
# Values

What an interpolation can hold. Most values are data. A sequence hands out values
one at a time and a component produces one on demand; both are only names here, and
the `Host` in whose care they are says what comes out of them.
-/

namespace HtmlTemplate

/-- The value of an interpolation. -/
inductive Value where
  | bool (value : Bool)
  /-- An integer of 64 bits. -/
  | int (value : Int)
  | float (value : Decimal.Binary64)
  | text (value : Text)
  /-- Markup that is already a tree. -/
  | markup (node : Markup.Node)
  | map (entries : List (Text × Value))
  | list (items : List Value)
  /-- A sequence that can be read through once; all copies of the value share its
  progress. -/
  | sequence (id : Nat)
  /-- A producer of values, with the name it is shown by. -/
  | component (name : Text) (id : Nat)
deriving Inhabited

/-- The word that names the kind of a value in messages. -/
def Value.kind : Value → String
  | .bool _ => "bool"
  | .int _ => "int"
  | .float _ => "float"
  | .text _ => "str"
  | .markup _ => "html"
  | .map _ => "map"
  | .list _ => "list"
  | .sequence _ => "iterator"
  | .component _ _ => "component"

/-- The owner of all sequences, components and deferred interpolations, seen through
what one use of each gives and how it changes the owner's state. -/
structure Host (σ : Type) where
  /-- The next value of a sequence, if one is left. -/
  pull : Nat → σ → Option Value × σ
  /-- A value from a component. -/
  call : Nat → σ → Value × σ
  /-- The value a deferred interpolation has now. -/
  compute : Nat → σ → Value × σ

/-- The host of a program without sequences, components and deferred
interpolations. -/
def Host.none : Host Unit where
  pull _ state := (Option.none, state)
  call _ state := (.bool false, state)
  compute _ state := (.bool false, state)

/-! ## Equality -/

mutual

/-- Whether two values are equal. Numbers are compared numerically, maps without
regard to order, sequences and components by their identity. -/
def Value.same : Value → Value → Bool
  | .bool a, .bool b => a = b
  | .int a, .int b => a = b
  | .float a, .float b => a.same b
  | .text a, .text b => a = b
  | .markup a, .markup b => a.same b
  | .map a, .map b => a.length = b.length && entriesWithin a b
  | .list a, .list b => sameItems a b
  | .sequence a, .sequence b => a = b
  | .component _ a, .component _ b => a = b
  | _, _ => false

/-- Whether two lists hold equal values in the same order. -/
def sameItems : List Value → List Value → Bool
  | [], [] => true
  | a :: as, b :: bs => a.same b && sameItems as bs
  | _, _ => false

/-- Whether every entry of the first list is in the second with an equal value. -/
def entriesWithin : List (Text × Value) → List (Text × Value) → Bool
  | [], _ => true
  | entry :: rest, others => entryWithin entry others && entriesWithin rest others

/-- Whether the second list has an equal value under the entry's key. -/
def entryWithin : Text × Value → List (Text × Value) → Bool
  | (key, value), others =>
    match others.lookup key with
    | some other => value.same other
    | none => false

end

/-! ## Paths -/

/-- The index a path segment stands for: decimal digits that fit in 64 bits,
possibly behind a plus sign. -/
def pathIndex? (segment : Text) : Option Nat :=
  Text.toNatUpTo? 0xFFFFFFFFFFFFFFFF 10 segment

/-- One step along a path: into the entry of a map, or into an item of a list. -/
def Value.step? (value : Value) (segment : Text) : Option Value :=
  match value with
  | .map entries => entries.lookup segment
  | .list items => (pathIndex? segment).bind (items[·]?)
  | _ => none

/-- The value a dotted path leads to, such as `user.name` or `items.0`. -/
def Value.lookup? (value : Value) (path : Text) : Option Value :=
  (Text.splitOn '.' path).foldlM Value.step? value

end HtmlTemplate
