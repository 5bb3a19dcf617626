import HtmlTemplate.Markup.Node

/-!
# Trees written as markup
-/

namespace HtmlTemplate.Markup

/-- Properties and their values, each pair with a colon, with semicolons between
them. -/
def joinDeclarations (properties : Dictionary Text) : Text :=
  Text.join [';', ' '] (properties.map fun (property, value) => property ++ ':' :: ' ' :: value)

/-- An attribute's name and, unless it is a flag, its value in double quotes. -/
def renderAttribute (key : Text) (value : Attribute) : Text :=
  let valued (text : Text) : Text := key ++ '=' :: '\"' :: text ++ ['\"']
  match value with
  | .flag _ => key
  | .number n => valued (Decimal.integer n)
  | .text text => valued (escape text)
  | .declarations properties => valued (escape (joinDeclarations properties))

/-- The attributes as they stand in a start tag, each behind a space. -/
def renderAttributes (attributes : Attributes) : Text :=
  attributes.flatMap fun (key, value) => ' ' :: renderAttribute key value

/-- An element around markup that is already written. One with nothing inside
closes itself, and a fragment adds nothing. -/
def renderElement (tag : Text) (attributes : Attributes) (empty : Bool) (inner : Text) :
    Text :=
  if tag.isEmpty then inner
  else
    let start := '<' :: tag ++ renderAttributes attributes
    if empty then start ++ ['/', '>']
    else start ++ '>' :: inner ++ '<' :: '/' :: tag ++ ['>']

mutual

/-- A child as markup. -/
def Child.render : Child → Text
  | .text content => escape content
  | .element tag attributes children =>
    renderElement tag attributes children.isEmpty (renderChildren children)

/-- Children as markup, one after another. -/
def renderChildren : List Child → Text
  | [] => []
  | child :: rest => child.render ++ renderChildren rest

end

/-- A node as markup. -/
def Node.render (node : Node) : Text :=
  node.toChild.render

end HtmlTemplate.Markup
