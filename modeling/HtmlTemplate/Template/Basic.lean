import HtmlTemplate.Template.Chunk
import HtmlTemplate.Template.Interpolation

/-!
# Templates

A template alternates between literal text and interpolations and begins and ends
with text. The type says so: there is a first text, and each interpolation comes with
the text behind it. `Template.ofItems` brings any list of texts and interpolations
into this form.
-/

namespace HtmlTemplate

/-- A part of a template before it is brought into alternating form. -/
inductive Item where
  | text (chunk : Chunk)
  | interpolation (interpolation : Interpolation)

/-- The interpolation, if the item is one. -/
def Item.interpolation? : Item → Option Interpolation
  | .text _ => none
  | .interpolation place => some place

/-- A part of a source text, from one byte up to another. -/
structure Span where
  start : Nat
  stop : Nat
deriving DecidableEq, Repr

/-- An alternation of texts and interpolations. -/
structure Template where
  /-- The text in front of the first interpolation. -/
  first : Chunk := {}
  /-- Every interpolation with the text behind it. -/
  rest : List (Interpolation × Chunk) := []
  /-- Where each text and each interpolation stands in the source, if that is
  known. -/
  spans : List Span := []

namespace Template

/-- The template of a list of texts and interpolations: neighbouring texts become
one, and an empty text goes wherever one is missing. -/
def ofItems : List Item → Template
  | [] => {}
  | .text chunk :: items =>
    let template := ofItems items
    { template with first := chunk.append template.first }
  | .interpolation interpolation :: items =>
    let template := ofItems items
    { first := {}, rest := (interpolation, template.first) :: template.rest }

/-- The texts and interpolations, in order. -/
def items (template : Template) : List Item :=
  .text template.first ::
    template.rest.flatMap fun (interpolation, chunk) =>
      [.interpolation interpolation, .text chunk]

/-- The template with the places of its texts and interpolations. Places are ignored
unless there is one for each. -/
def withSpans (template : Template) (spans : List Span) : Template :=
  if spans.length = template.items.length then { template with spans } else template

/-- The place of the text or interpolation with a given index. -/
def span? (template : Template) (index : Nat) : Option Span :=
  template.spans[index]?

/-- The texts, in order. -/
def chunks (template : Template) : List Chunk :=
  template.first :: template.rest.map Prod.snd

/-- The interpolations, in order. -/
def interpolations (template : Template) : List Interpolation :=
  template.rest.map Prod.fst

/-- Whether the template is a single empty text. -/
def isEmpty (template : Template) : Bool :=
  template.rest.isEmpty && template.first.isEmpty

/-- The value of every interpolation, each taken once, in order. -/
def values {σ : Type} (host : Host σ) (template : Template) : StateM σ (List Value) :=
  template.interpolations.mapM fun interpolation state => interpolation.value host state

/-- The source form: the texts as they were written, and between them the
interpolations. -/
def sourceText (template : Template) : Text :=
  template.first.raw ++
    template.rest.flatMap fun (interpolation, chunk) => interpolation.written ++ chunk.raw

/-- The template as plain text, with every interpolation formatted in its place. The
first value that cannot be formatted ends the work. -/
def format {σ : Type} (host : Host σ) (template : Template) :
    EStateM Format.Error σ Text := do
  let parts ← template.rest.mapM fun (interpolation, chunk) => do
    let value ← modifyGet (interpolation.value host)
    match Format.formatValue value interpolation.conversion interpolation.spec with
    | .ok text => pure (text ++ chunk.decoded)
    | .error error => throw error
  pure (template.first.decoded ++ parts.flatten)

end Template

end HtmlTemplate
