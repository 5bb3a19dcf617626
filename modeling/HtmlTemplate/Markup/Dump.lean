import HtmlTemplate.Markup.Node
import HtmlTemplate.Text.Quoted

/-!
# Trees written out in full

The dump of a node names every part of it, one to a line, each four spaces further
in than what it belongs to.
-/

namespace HtmlTemplate.Markup

/-- Parts between an opening and a closing mark, each on a line of its own and
followed by a comma. Without parts the marks stand side by side. -/
def dumpBlock (depth : Nat) (opening closing : Text) (parts : List Text) : Text :=
  let indent (depth : Nat) : Text := List.replicate (4 * depth) ' '
  if parts.isEmpty then opening ++ closing
  else
    opening ++ '\n' ::
      parts.flatMap (fun part => indent (depth + 1) ++ part ++ [',', '\n']) ++
      indent depth ++ closing

/-- A part that consists of a name and one value. -/
def dumpTagged (depth : Nat) (name : String) (value : Text) : Text :=
  dumpBlock depth (name.toList ++ ['(']) [')'] [value]

/-- An attribute value, at a depth. -/
def Attribute.dump (depth : Nat) : Attribute → Text
  | .flag value => dumpTagged depth "Bool" (if value then "true" else "false").toList
  | .number value => dumpTagged depth "Int" (Decimal.integer value)
  | .text value => dumpTagged depth "Text" (Text.quoted value)
  | .declarations properties =>
    dumpTagged depth "Declarations" <|
      dumpBlock (depth + 1) ['{'] ['}'] <|
        properties.map fun (property, value) =>
          Text.quoted property ++ ':' :: ' ' :: Text.quoted value

/-- Attributes, at a depth. -/
def dumpAttributes (depth : Nat) (attributes : Attributes) : Text :=
  dumpBlock depth ['{'] ['}'] <|
    attributes.map fun (key, value) =>
      Text.quoted key ++ ':' :: ' ' :: value.dump (depth + 1)

/-- A node of which the children are already written, at a depth. -/
def dumpElement (depth : Nat) (tag : Text) (attributes : Attributes)
    (children : List Text) : Text :=
  dumpBlock depth ("HtmlNode ".toList ++ ['{']) ['}']
    [ "tag: ".toList ++ Text.quoted tag,
      "attrs: ".toList ++ dumpAttributes (depth + 1) attributes,
      "children: ".toList ++ dumpBlock (depth + 1) ['['] [']'] children ]

mutual

/-- A child, at a depth. -/
def Child.dump (depth : Nat) : Child → Text
  | .text content => dumpTagged depth "Text" (Text.quoted content)
  | .element tag attributes children =>
    dumpTagged depth "Node" <|
      dumpElement (depth + 1) tag attributes (dumpEach (depth + 3) children)

/-- Each of some children, at a depth. -/
def dumpEach (depth : Nat) : List Child → List Text
  | [] => []
  | child :: rest => child.dump depth :: dumpEach depth rest

end

/-- The dump of a node. -/
def Node.dump (node : Node) : Text :=
  dumpElement 0 node.tag node.attributes (dumpEach 2 node.children)

end HtmlTemplate.Markup
