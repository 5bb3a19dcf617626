import HtmlTemplate.Proofs.Brackets
import HtmlTemplate.Proofs.Filling
import HtmlTemplate.Proofs.Outcomes

/-!
# Delivered values

What filling takes from the interpolations of its items: their values, and what lists, maps,
sequences and components hand on. Where all markup among that is sound, so is what values give
inside an element.
-/

namespace HtmlTemplate.Resolve.Filling

open Markup (Child Node)

variable {σ : Type} (filling : Filling σ) (start : σ)

mutual

/-- The states that filling can bring its host to from a first one: by evaluating
interpolations, and by using the sequences and components that are delivered. -/
inductive Reaches : σ → Prop where
  | start : Reaches start
  | evaluated {index : Nat} {interpolation : Interpolation} {session session' : Session σ}
      {value : Value} (within : .interpolation interpolation ∈ filling.items)
      (reached : Reaches session.state)
      (ran : filling.evaluate index interpolation session = .ok value session') :
      Reaches session'.state
  | pulled {id : Nat} {state : σ} (reached : Reaches state)
      (delivered : Delivers (.sequence id)) : Reaches (filling.host.pull id state).2
  | called {name : Text} {id : Nat} {state : σ} (reached : Reaches state)
      (delivered : Delivers (.component name id)) : Reaches (filling.host.call id state).2

/-- The values that filling can come by: those of the interpolations, formatted if that is
asked for, and what is inside of delivered ones. -/
inductive Delivers : Value → Prop where
  | evaluated {index : Nat} {interpolation : Interpolation} {session session' : Session σ}
      {value : Value} (within : .interpolation interpolation ∈ filling.items)
      (reached : Reaches session.state)
      (ran : filling.evaluate index interpolation session = .ok value session') :
      Delivers value
  | item {items : List Value} {item : Value} (delivered : Delivers (.list items))
      (member : item ∈ items) : Delivers item
  | key {entries : Dictionary Value} {entry : Text × Value} (delivered : Delivers (.map entries))
      (member : entry ∈ entries) : Delivers (.text entry.1)
  | pulled {id : Nat} {state : σ} {value : Value} (reached : Reaches state)
      (delivered : Delivers (.sequence id))
      (left : (filling.host.pull id state).1 = some value) : Delivers value
  | called {name : Text} {id : Nat} {state : σ} (reached : Reaches state)
      (delivered : Delivers (.component name id)) :
      Delivers (filling.host.call id state).1

end

variable {filling start}

/-- States and values that filling does not leave, wherever it comes by a value. -/
structure Closed (filling : Filling σ) (possible : σ → Prop) (good : Value → Prop) : Prop where
  evaluated {interpolation : Interpolation} (within : .interpolation interpolation ∈ filling.items)
    (index : Nat) : Ensures possible (filling.evaluate index interpolation) good
  item {items : List Value} {item : Value} (holds : good (.list items)) (member : item ∈ items) :
    good item
  key {entries : Dictionary Value} {entry : Text × Value} (holds : good (.map entries))
    (member : entry ∈ entries) : good (.text entry.1)
  pulled {id : Nat} (holds : good (.sequence id)) :
    Ensures possible (useHost (filling.host.pull id))
      fun value? => ∀ value, value? = some value → good value
  called {name : Text} {id : Nat} (holds : good (.component name id)) :
    Ensures possible (useHost (filling.host.call id)) good

section Closed

variable {possible : σ → Prop} {good : Value → Prop}

mutual

/-- What is closed under the steps of the host holds of all states that can be reached. -/
theorem Reaches.possible_of_closed (closed : filling.Closed possible good)
    (begins : possible start) {state : σ} : filling.Reaches start state → possible state
  | .start => begins
  | .evaluated within reached ran =>
    (closed.evaluated within _ _ _ _ (reached.possible_of_closed closed begins) ran).1
  | @Reaches.pulled _ _ _ _ state reached delivered =>
    (closed.pulled (delivered.good_of_closed closed begins) { state } _ _
      (reached.possible_of_closed closed begins) rfl).1
  | @Reaches.called _ _ _ _ _ state reached delivered =>
    (closed.called (delivered.good_of_closed closed begins) { state } _ _
      (reached.possible_of_closed closed begins) rfl).1

/-- What holds of the values of all interpolations, and of what is inside of a value if it holds
of that value, holds of all values that filling comes by. -/
theorem Delivers.good_of_closed (closed : filling.Closed possible good)
    (begins : possible start) {value : Value} : filling.Delivers start value → good value
  | .evaluated within reached ran =>
    (closed.evaluated within _ _ _ _ (reached.possible_of_closed closed begins) ran).2
  | .item delivered member => closed.item (delivered.good_of_closed closed begins) member
  | .key delivered member => closed.key (delivered.good_of_closed closed begins) member
  | @Delivers.pulled _ _ _ _ state value reached delivered left =>
    (closed.pulled (delivered.good_of_closed closed begins) { state } _ _
      (reached.possible_of_closed closed begins) rfl).2 value left
  | @Delivers.called _ _ _ _ _ state reached delivered =>
    (closed.called (delivered.good_of_closed closed begins) { state } _ _
      (reached.possible_of_closed closed begins) rfl).2

end

end Closed

/-! ## Uses of the host -/

/-- What an interpolation is evaluated to has been delivered. -/
theorem evaluate_delivers {interpolation : Interpolation}
    (within : .interpolation interpolation ∈ filling.items) (index : Nat) :
    Ensures (filling.Reaches start) (filling.evaluate index interpolation)
      (filling.Delivers start) :=
  fun _ _ _ reached ran => ⟨.evaluated within reached ran, .evaluated within reached ran⟩

/-- What a delivered sequence gives has been delivered. -/
theorem pull_delivers {id : Nat} (delivered : filling.Delivers start (.sequence id)) :
    Ensures (filling.Reaches start) (useHost (filling.host.pull id))
      fun value? => ∀ value, value? = some value → filling.Delivers start value :=
  .useHost fun _ reached =>
    ⟨.pulled reached delivered, fun _ left => .pulled reached delivered left⟩

/-- What a delivered component gives has been delivered. -/
theorem call_delivers {name : Text} {id : Nat}
    (delivered : filling.Delivers start (.component name id)) :
    Ensures (filling.Reaches start) (useHost (filling.host.call id)) (filling.Delivers start) :=
  .useHost fun _ reached => ⟨.called reached delivered, .called reached delivered⟩

/-! ## Texts with markers -/

/-- The interpolations of a text are among the items. -/
theorem mem_items_of_mem_pieces {text : Text} {pieces : List Piece} {index : Nat}
    {interpolation : Interpolation} (found : filling.pieces text = .ok pieces)
    (member : .interpolation index interpolation ∈ pieces) :
    .interpolation interpolation ∈ filling.items := by
  obtain ⟨segment, _, made⟩ := exists_of_forall₂ (mapM_eq_ok_iff.mp found).flip member
  cases segment with
  | literal literal => cases made
  | marker place =>
    cases here : filling.interpolation? place with
    | none =>
      rw [filling.piece_of_none here] at made
      cases made
    | some other =>
      rw [filling.piece_of_some here] at made
      cases made
      obtain ⟨item, there, held⟩ := Option.bind_eq_some_iff.mp here
      cases item with
      | text chunk => cases held
      | interpolation place =>
        cases held
        exact List.mem_of_getElem? there

/-- If literal text gives fragments with a property, and every delivered value does, all
fragments of a text have it. -/
theorem fill_ensures {α : Type} {holds : α → Prop} {ofLiteral : Text → α}
    {convert : Value → Resolution σ (Converted α)} (literals : ∀ text, holds (ofLiteral text))
    (values : ∀ value, filling.Delivers start value →
      Ensures (filling.Reaches start) (convert value)
        fun converted => ∀ fragment ∈ converted.toList, holds fragment)
    (text : Text) :
    Ensures (filling.Reaches start) (filling.fill ofLiteral convert text)
      fun fragments => ∀ fragment ∈ fragments, holds fragment := by
  cases found : filling.pieces text with
  | error error =>
    rw [filling.fill_of_error found]
    exact .throw error
  | ok pieces =>
    have each : ∀ piece ∈ pieces, Ensures (filling.Reaches start)
        (filling.fillPiece ofLiteral convert piece)
        fun fragments => ∀ fragment ∈ fragments, holds fragment := by
      intro piece member
      cases piece with
      | literal literal => exact .pure (by simpa using literals literal)
      | interpolation index interpolation =>
        have within := mem_items_of_mem_pieces found member
        refine (evaluate_delivers within index).bind fun value delivered => ?_
        exact (values value delivered).bind fun converted fragments => .pure fragments
    rw [filling.fill_of_ok found]
    refine (Ensures.mapM each).bind fun fragments all => .pure ?_
    simpa only [List.forall_mem_flatten] using all

/-- Where it does not matter which fragments there are, it is enough that values can be converted
from every state. -/
theorem fill_reaches {α : Type} {ofLiteral : Text → α}
    {convert : Value → Resolution σ (Converted α)}
    (values : ∀ value, Ensures (filling.Reaches start) (convert value) fun _ => True)
    (text : Text) :
    Ensures (filling.Reaches start) (filling.fill ofLiteral convert text) fun _ => True := by
  have filled : Ensures (filling.Reaches start) (filling.fill ofLiteral convert text)
      fun fragments => ∀ fragment ∈ fragments, True :=
    fill_ensures (fun _ => trivial) (fun value _ => (values value).mono fun _ _ _ _ => trivial) text
  exact filled.mono fun _ _ => trivial

/-! ## Inside an element -/

/-- What every value of a delivered sequence ensures of its children holds of all children. -/
theorem drain_ensures {holds : Child → Prop} {convert : Value → Resolution σ (List Child)}
    (values : ∀ value, filling.Delivers start value →
      Ensures (filling.Reaches start) (convert value) fun children =>
        ∀ child ∈ children, holds child)
    {id : Nat} (delivered : filling.Delivers start (.sequence id)) (left : Nat)
    {taken : List (List Child)} (all : ∀ children ∈ taken, ∀ child ∈ children, holds child) :
    Ensures (filling.Reaches start) (drain filling.host id convert left taken)
      fun children => ∀ child ∈ children, holds child := by
  have gathered : ∀ child ∈ taken.reverse.flatten, holds child := by
    simpa only [List.forall_mem_flatten, List.mem_reverse] using all
  induction left generalizing taken with
  | zero =>
    rw [drain]
    refine (pull_delivers delivered).bind fun value? _ => ?_
    cases value? with
    | none => exact .pure gathered
    | some value => exact .throw _
  | succ left inductionHypothesis =>
    rw [drain]
    refine (pull_delivers delivered).bind fun value? next => ?_
    cases value? with
    | none => exact .pure gathered
    | some value =>
      refine (values value (next value rfl)).bind fun children sound => ?_
      have more := List.forall_mem_cons.mpr ⟨sound, all⟩
      refine inductionHypothesis more ?_
      simpa only [List.forall_mem_flatten, List.mem_reverse] using more

section Sound

variable (sound : ∀ node, filling.Delivers start (.markup node) → node.toChild.Sound)

include sound

/-- Delivered values give sound children if delivered markup is sound. -/
theorem flatten_sound (room : Nat) {value : Value} (delivered : filling.Delivers start value) :
    Ensures (filling.Reaches start) (flatten filling.host room value)
      fun children => ∀ child ∈ children, child.Sound := by
  have shown (content : Text) : ∀ child ∈ [Child.text content], child.Sound := by
    simpa using .text content
  induction room generalizing value with
  | zero => exact .throw _
  | succ room inductionHypothesis =>
    cases value with
    | markup node =>
      refine .pure ?_
      have whole := sound node delivered
      split
      · obtain _ | ⟨_, _, inside⟩ := whole
        exact inside
      · simpa using whole
    | list items =>
      have each : ∀ item ∈ items, Ensures (filling.Reaches start)
          (flatten filling.host room item) fun children => ∀ child ∈ children, child.Sound :=
        fun item member => inductionHypothesis (.item delivered member)
      refine (Ensures.mapM each).bind fun children all => .pure ?_
      simpa only [List.forall_mem_flatten] using all
    | map entries =>
      have each : ∀ entry ∈ entries, Ensures (filling.Reaches start)
          (flatten filling.host room (.text entry.1)) fun children =>
            ∀ child ∈ children, child.Sound :=
        fun entry member => inductionHypothesis (.key delivered member)
      refine (Ensures.mapM each).bind fun children all => .pure ?_
      simpa only [List.forall_mem_flatten] using all
    | sequence id =>
      exact drain_ensures (fun value => inductionHypothesis) delivered sequenceLimit (by simp)
    | component name id =>
      exact (call_delivers delivered).bind fun value => inductionHypothesis
    | text content => exact .pure (shown _)
    | bool value => exact .pure (shown _)
    | int value => exact .pure (shown _)
    | float value => exact .pure (shown _)

/-- A delivered value gives sound children, if the nodes that are delivered are sound. -/
theorem convertChild_sound {value : Value} (delivered : filling.Delivers start value) :
    Ensures (filling.Reaches start) (convertChild filling.host value)
      fun converted => ∀ child ∈ converted.toList, child.Sound := by
  refine (flatten_sound sound _ delivered).bind fun children all => ?_
  split <;> exact .pure all

/-- A text inside an element gives sound children, if the nodes that are delivered are sound. -/
theorem fillChild_sound (text : Text) :
    Ensures (filling.Reaches start) (filling.fillChild text)
      fun children => ∀ child ∈ children, child.Sound :=
  fill_ensures .text (fun _ => convertChild_sound sound) text

end Sound

end HtmlTemplate.Resolve.Filling
