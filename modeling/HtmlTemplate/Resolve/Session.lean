import HtmlTemplate.Error
import HtmlTemplate.Template.Basic

/-!
# Sessions

Resolving a template uses sequences, components and deferred interpolations, and what
was used up stays used up, also when resolving fails. A session carries the state of
their host, and records which interpolations have been evaluated.
-/

namespace HtmlTemplate.Resolve

/-- The state of a resolution. -/
structure Session (σ : Type) where
  /-- The state of the host. -/
  state : σ
  /-- The indices of the interpolations evaluated so far, the latest first. -/
  evaluated : List Nat := []

/-- A step of a resolution: it changes the session and gives a result or fails. -/
abbrev Resolution (σ : Type) (α : Type) := EStateM Error (Session σ) α

/-- One use of the host. -/
def useHost {σ α : Type} (use : σ → α × σ) : Resolution σ α := fun session =>
  let (result, state) := use session.state
  .ok result { session with state }

/-- Records that the interpolation with a given index is evaluated. -/
def recordEvaluation {σ : Type} (index : Nat) : Resolution σ Unit :=
  modify fun session => { session with evaluated := index :: session.evaluated }

end HtmlTemplate.Resolve
