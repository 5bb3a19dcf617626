import HtmlTemplate.Format.Apply

/-!
# Interpolations

An interpolation is a place in a template that a value goes to, together with how
the value is to be shown there.
-/

namespace HtmlTemplate

/-- Where an interpolation has its value from. -/
inductive Source where
  /-- A value that was taken once, when the template was made. -/
  | held (value : Value)
  /-- A value that the host computes anew for every use. -/
  | deferred (id : Nat)

/-- A place in a template that a value goes to. -/
structure Interpolation where
  /-- The expression the value was written as. -/
  expr : Text
  source : Source
  /-- What is taken of the value before it is laid out. -/
  conversion : Option Format.Conversion := none
  /-- The specifier the value is laid out by. -/
  spec : Option Text := none

namespace Interpolation

/-- The value for one use. -/
def value {σ : Type} (host : Host σ) (interpolation : Interpolation) (state : σ) :
    Value × σ :=
  match interpolation.source with
  | .held value => (value, state)
  | .deferred id => host.compute id state

/-- The interpolation with the value that it has now, taken once and for all. -/
def snapshot {σ : Type} (host : Host σ) (interpolation : Interpolation) (state : σ) :
    Interpolation × σ :=
  let (value, state) := interpolation.value host state
  ({ interpolation with source := .held value }, state)

/-- The interpolation as it is written in a template: the expression in braces,
behind it the conversion and the specifier, if there are any. -/
def written (interpolation : Interpolation) : Text :=
  let conversion := match interpolation.conversion with
    | some conversion => ['!', conversion.char]
    | none => []
  let spec := match interpolation.spec with
    | some spec => ':' :: spec
    | none => []
  '{' :: interpolation.expr ++ conversion ++ spec ++ ['}']

end Interpolation

end HtmlTemplate
