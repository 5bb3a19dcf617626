import HtmlTemplate.Proofs.Filling

/-!
# Evaluated interpolations

Filling a skeleton evaluates an interpolation once for each of its markers, in one order: what
stands inside of an element first, then its attributes, then its tag. Where filling fails, it has
evaluated a beginning of that order (`fillTree_evaluates`). That the evaluations are made, and not
only recorded, is seen in a host that keeps a log of what it computes.
-/

namespace HtmlTemplate

open Markup (Attributes Child Node WrittenAttribute)

/-- A host that keeps a log of the deferred interpolations it has computed, and otherwise does
what another host does. -/
def Host.logging {σ : Type} (host : Host σ) : Host (σ × List Nat) where
  pull id := fun (state, log) =>
    let (value?, state) := host.pull id state
    (value?, state, log)
  call id := fun (state, log) =>
    let (value, state) := host.call id state
    (value, state, log)
  compute id := fun (state, log) =>
    let (value, state) := host.compute id state
    (value, state, log ++ [id])

namespace Skeleton

/-- The markers of an attribute as it is written: those of its name, then those of its value. -/
def attributeMarkers (written : WrittenAttribute) : List Nat :=
  markers written.1 ++ (written.2.map markers).getD []

mutual

/-- The markers of a part in the order in which they are filled: those of its children, then
those of its attributes, then those of its tag. -/
def Part.allMarkers : Part → List Nat
  | .text content => markers content
  | .element tag attributes children =>
    allMarkersOf children ++ attributes.flatMap attributeMarkers ++ (tag.map markers).getD []

/-- The markers of some parts, one part after the other. -/
def allMarkersOf : List Part → List Nat
  | [] => []
  | part :: parts => part.allMarkers ++ allMarkersOf parts

end

/-- The markers of a skeleton in the order in which they are filled. -/
def Tree.allMarkers (tree : Tree) : List Nat :=
  tree.toPart.allMarkers

end Skeleton

namespace Resolve

open Skeleton (Part Segment Tree allMarkersOf attributeMarkers markers)

variable {σ α β γ : Type}

/-- A session whose host keeps a log. -/
def Session.logging (session : Session σ) (log : List Nat) : Session (σ × List Nat) where
  state := (session.state, log)
  evaluated := session.evaluated

/-- The marker that a piece stands for, if it is an interpolation. -/
def Piece.indices : Piece → List Nat
  | .literal _ => []
  | .interpolation index _ => [index]

namespace Filling

/-- The filling with a host that keeps a log. -/
def logging (filling : Filling σ) : Filling (σ × List Nat) where
  host := filling.host.logging
  items := filling.items
  policy := filling.policy

variable (filling : Filling σ)

/-- What the host has to compute for a marker, if its interpolation is deferred. -/
def deferred? (index : Nat) : Option Nat :=
  match (filling.interpolation? index).map Interpolation.source with
  | some (.deferred id) => some id
  | _ => none

/-- What becomes of a session when the interpolations of some markers are evaluated in order. With
a log, the result is the same, and the log is continued by what was computed. A failure comes
behind a beginning of the order. -/
inductive Traced (order : List Nat) (session : Session σ) (log : List Nat) :
    EStateM.Result Error (Session σ) α → EStateM.Result Error (Session (σ × List Nat)) α →
      Prop where
  | ok {result : α} {stop : Session σ}
      (evaluated : stop.evaluated = order.reverse ++ session.evaluated) :
      Traced order session log (.ok result stop)
        (.ok result (stop.logging (log ++ order.filterMap filling.deferred?)))
  | error {error : Error} {stop : Session σ} {calls : List Nat} (begins : calls <+: order)
      (evaluated : stop.evaluated = calls.reverse ++ session.evaluated) :
      Traced order session log (.error error stop)
        (.error error (stop.logging (log ++ calls.filterMap filling.deferred?)))

/-- A run without a failure goes the same way with a log. -/
theorem Traced.eq_ok {order : List Nat} {session stop : Session σ} {log : List Nat} {result : α}
    {logged : EStateM.Result Error (Session (σ × List Nat)) α}
    (traced : filling.Traced order session log (.ok result stop) logged) :
    logged = .ok result (stop.logging (log ++ order.filterMap filling.deferred?)) := by
  cases traced
  rfl

/-- A failure comes in the same place with a log. -/
theorem Traced.eq_error {order : List Nat} {session stop : Session σ} {log : List Nat}
    {error : Error} {logged : EStateM.Result Error (Session (σ × List Nat)) α}
    (traced : filling.Traced order session log (.error error stop) logged) :
    ∃ calls, calls <+: order ∧ stop.evaluated = calls.reverse ++ session.evaluated ∧
      logged = .error error (stop.logging (log ++ calls.filterMap filling.deferred?)) := by
  cases traced with
  | error begins evaluated => exact ⟨_, begins, evaluated, rfl⟩

/-- A resolution, alone and with a log, evaluates the interpolations of some markers in order, or
those of a beginning if it fails. -/
def Evaluates (order : List Nat) (resolution : Resolution σ α)
    (logged : Resolution (σ × List Nat) α) : Prop :=
  ∀ session log,
    filling.Traced order session log (resolution session) (logged (session.logging log))

namespace Evaluates

variable {filling} {order orderNext : List Nat}

/-- What evaluates nothing has no markers. -/
theorem pure (result : α) :
    filling.Evaluates [] (Pure.pure result : Resolution σ α) (Pure.pure result) := by
  intro session log
  have behind : filling.Traced [] session log (.ok result session)
      (.ok result (session.logging (log ++ [].filterMap filling.deferred?))) := .ok rfl
  rw [List.filterMap_nil, List.append_nil] at behind
  exact behind

/-- A failure may come before any of the markers is evaluated. -/
theorem throw (order : List Nat) (error : Error) :
    filling.Evaluates order (throw error : Resolution σ α) (throw error) := by
  intro session log
  have behind : filling.Traced (α := α) order session log (.error error session)
      (.error error (session.logging (log ++ [].filterMap filling.deferred?))) :=
    .error List.nil_prefix rfl
  rw [List.filterMap_nil, List.append_nil] at behind
  exact behind

/-- Two resolutions evaluate the markers of the first, then those of the second. -/
theorem bind {first : Resolution σ α} {firstLogged : Resolution (σ × List Nat) α}
    {next : α → Resolution σ β} {nextLogged : α → Resolution (σ × List Nat) β}
    (evaluates : filling.Evaluates order first firstLogged)
    (evaluatesNext : ∀ result, filling.Evaluates orderNext (next result) (nextLogged result)) :
    filling.Evaluates (order ++ orderNext) (first >>= next) (firstLogged >>= nextLogged) := by
  intro session log
  have traced := evaluates session log
  simp only [Bind.bind, EStateM.bind]
  generalize first session = outcome, firstLogged (session.logging log) = logged at traced ⊢
  cases traced with
  | @ok result middle evaluated =>
    have tracedNext := evaluatesNext result middle (log ++ order.filterMap filling.deferred?)
    simp only
    generalize next result middle = outcome, nextLogged result _ = logged at tracedNext ⊢
    cases tracedNext with
    | ok evaluatedNext =>
      rw [List.append_assoc, ← List.filterMap_append]
      exact .ok (by rw [evaluatedNext, evaluated, List.reverse_append, List.append_assoc])
    | @error error stop calls begins evaluatedNext =>
      rw [List.append_assoc, ← List.filterMap_append]
      refine .error ((List.prefix_append_right_inj order).mpr begins) ?_
      rw [evaluatedNext, evaluated, List.reverse_append, List.append_assoc]
  | @error error stop calls begins evaluated =>
    exact .error (begins.trans (List.prefix_append order orderNext)) evaluated

/-- Behind the last evaluation a resolution goes on without any. -/
theorem bind_nil {first : Resolution σ α} {firstLogged : Resolution (σ × List Nat) α}
    {next : α → Resolution σ β} {nextLogged : α → Resolution (σ × List Nat) β}
    (evaluates : filling.Evaluates order first firstLogged)
    (evaluatesNext : ∀ result, filling.Evaluates [] (next result) (nextLogged result)) :
    filling.Evaluates order (first >>= next) (firstLogged >>= nextLogged) := by
  simpa using evaluates.bind evaluatesNext

/-- In front of the first evaluation a resolution gets along without any. -/
theorem nil_bind {first : Resolution σ α} {firstLogged : Resolution (σ × List Nat) α}
    {next : α → Resolution σ β} {nextLogged : α → Resolution (σ × List Nat) β}
    (evaluates : filling.Evaluates [] first firstLogged)
    (evaluatesNext : ∀ result, filling.Evaluates order (next result) (nextLogged result)) :
    filling.Evaluates order (first >>= next) (firstLogged >>= nextLogged) :=
  evaluates.bind evaluatesNext

/-- Each element of a list evaluates its own markers, one after the other. -/
theorem mapM {orders : α → List Nat} {step : α → Resolution σ β}
    {stepLogged : α → Resolution (σ × List Nat) β} {list : List α}
    (each : ∀ element ∈ list,
      filling.Evaluates (orders element) (step element) (stepLogged element)) :
    filling.Evaluates (list.flatMap orders) (list.mapM step) (list.mapM stepLogged) := by
  induction list with
  | nil =>
    rw [List.mapM_nil, List.mapM_nil]
    exact pure []
  | cons element list inductionHypothesis =>
    rw [List.mapM_cons, List.mapM_cons, List.flatMap_cons]
    refine (each element (by simp)).bind fun result => ?_
    refine (inductionHypothesis fun other member => each other (by simp [member])).bind_nil
      fun results => ?_
    exact pure (result :: results)

/-- Sequences and components can be used without evaluating anything. -/
theorem mapM_nil {step : α → Resolution σ β} {stepLogged : α → Resolution (σ × List Nat) β}
    {list : List α} (each : ∀ element ∈ list,
      filling.Evaluates [] (step element) (stepLogged element)) :
    filling.Evaluates [] (list.mapM step) (list.mapM stepLogged) := by
  have none : list.flatMap (fun _ => ([] : List Nat)) = [] := by simp
  rw [← none]
  exact mapM each

/-- One use of a sequence or a component evaluates nothing. -/
theorem useHost {use : σ → α × σ} {useLogged : σ × List Nat → α × σ × List Nat}
    (same : ∀ state log, useLogged (state, log) = ((use state).1, (use state).2, log)) :
    filling.Evaluates [] (useHost use) (useHost useLogged) := by
  intro session log
  have behind : filling.Traced [] session log
      (.ok (use session.state).1 { session with state := (use session.state).2 })
      (.ok (use session.state).1 (Session.logging { session with state := (use session.state).2 }
        (log ++ [].filterMap filling.deferred?))) := .ok rfl
  rw [List.filterMap_nil, List.append_nil] at behind
  simpa only [Resolve.useHost, Session.logging, same] using behind

end Evaluates

/-! ## Values in their places -/

section Values

variable {filling}

/-- Checking the name of an attribute evaluates nothing. -/
theorem attributeName_evaluates (name : Text) :
    filling.Evaluates [] (attributeName name) (attributeName name) := by
  unfold attributeName
  split
  · exact .pure name
  · exact .throw [] _

/-- Asking for a single fragment evaluates nothing. -/
theorem single_evaluates (place : String) (fragments : List α) :
    filling.Evaluates [] (single place fragments) (single place fragments) := by
  unfold single
  split
  · exact .pure _
  · exact .throw [] _

/-- Taking a value from a sequence evaluates nothing. -/
theorem pull_evaluates (id : Nat) :
    filling.Evaluates [] (useHost (filling.host.pull id))
      (useHost (filling.logging.host.pull id)) :=
  .useHost fun _ _ => rfl

/-- Calling a component evaluates nothing. -/
theorem call_evaluates (id : Nat) :
    filling.Evaluates [] (useHost (filling.host.call id))
      (useHost (filling.logging.host.call id)) :=
  .useHost fun _ _ => rfl

/-- Emptying a sequence evaluates nothing. -/
theorem drain_evaluates {convert : Value → Resolution σ (List Child)}
    {convertLogged : Value → Resolution (σ × List Nat) (List Child)}
    (values : ∀ value, filling.Evaluates [] (convert value) (convertLogged value)) (id left : Nat)
    (taken : List (List Child)) :
    filling.Evaluates [] (drain filling.host id convert left taken)
      (drain filling.logging.host id convertLogged left taken) := by
  induction left generalizing taken with
  | zero =>
    rw [drain, drain]
    refine (pull_evaluates id).bind_nil fun value? => ?_
    cases value? with
    | none => exact .pure _
    | some value => exact .throw [] _
  | succ left inductionHypothesis =>
    rw [drain, drain]
    refine (pull_evaluates id).bind_nil fun value? => ?_
    cases value? with
    | none => exact .pure _
    | some value => exact (values value).bind_nil fun children => inductionHypothesis _

/-- Flattening a value evaluates nothing, however deep its sequences and components go. -/
theorem flatten_evaluates (room : Nat) (value : Value) :
    filling.Evaluates [] (flatten filling.host room value)
      (flatten filling.logging.host room value) := by
  induction room generalizing value with
  | zero => exact .throw [] _
  | succ room inductionHypothesis =>
    cases value with
    | list items =>
      exact (Evaluates.mapM_nil fun item _ => inductionHypothesis item).bind_nil fun _ => .pure _
    | map entries =>
      exact (Evaluates.mapM_nil fun entry _ => inductionHypothesis (.text entry.1)).bind_nil
        fun _ => .pure _
    | sequence id => exact drain_evaluates inductionHypothesis id sequenceLimit []
    | component name id => exact (call_evaluates id).bind_nil inductionHypothesis
    | _ => exact .pure _

/-- What a value gives inside an element is found without an evaluation. -/
theorem convertChild_evaluates (value : Value) :
    filling.Evaluates [] (convertChild filling.host value)
      (convertChild filling.logging.host value) := by
  refine (flatten_evaluates (depthLimit + 1) value).bind_nil fun children => ?_
  split <;> exact .pure _

/-- What a value gives in the name of an attribute is found without an evaluation. -/
theorem convertAttributeKey_evaluates (value : Value) :
    filling.Evaluates [] (convertAttributeKey value) (convertAttributeKey value) := by
  cases value with
  | text text => exact (attributeName_evaluates _).bind_nil fun _ => .pure _
  | _ => exact .throw [] _

/-- What a value gives in the value of an attribute is found without an evaluation. -/
theorem convertAttributeValue_evaluates (value : Value) :
    filling.Evaluates [] (convertAttributeValue value) (convertAttributeValue value) := by
  unfold convertAttributeValue
  split
  · exact .pure _
  · exact .pure _
  · exact .pure _
  · exact .throw [] _

/-- What an entry of a map gives as an attribute is found without an evaluation. -/
theorem spreadValue_evaluates (value : Value) :
    filling.Evaluates [] (spreadValue value) (spreadValue value) := by
  unfold spreadValue
  split
  · exact .pure _
  · exact .pure _
  · exact .pure _
  · exact .pure _
  · exact .pure _
  · exact .throw [] _

/-- What a component gives in the name of a tag is found without an evaluation. -/
theorem namePart_evaluates (calls : Nat) (value : Value) :
    filling.Evaluates [] (namePart filling.host calls value)
      (namePart filling.logging.host calls value) := by
  induction calls generalizing value with
  | zero =>
    cases value with
    | markup node => exact .pure _
    | text text => exact .pure _
    | int value => exact .pure _
    | _ => exact .throw [] _
  | succ calls inductionHypothesis =>
    cases value with
    | component name id => exact (call_evaluates id).bind_nil inductionHypothesis
    | markup node => exact .pure _
    | text text => exact .pure _
    | int value => exact .pure _
    | _ => exact .throw [] _

/-- What a value gives in the name of a tag is found without an evaluation. -/
theorem convertName_evaluates (value : Value) :
    filling.Evaluates [] (convertName filling.host value)
      (convertName filling.logging.host value) :=
  (namePart_evaluates depthLimit value).bind_nil fun _ => .pure _

end Values

/-! ## Texts with markers -/

/-- A piece is found for each segment of a text, with the index of a marker. -/
theorem of_piece {segment : Segment} {piece : Piece} (found : filling.piece segment = .ok piece) :
    segment.indices = piece.indices ∧ ∀ index interpolation,
      piece = .interpolation index interpolation →
        filling.interpolation? index = some interpolation := by
  cases segment with
  | literal text =>
    cases found
    exact ⟨rfl, fun _ _ same => nomatch same⟩
  | marker index =>
    cases here : filling.interpolation? index with
    | none =>
      rw [filling.piece_of_none here] at found
      cases found
    | some interpolation =>
      rw [filling.piece_of_some here] at found
      cases found
      refine ⟨rfl, fun _ _ same => ?_⟩
      cases same
      exact here

/-- The pieces of a text stand for its markers, in order. -/
theorem flatMap_indices_of_pieces {text : Text} {pieces : List Piece}
    (found : filling.pieces text = .ok pieces) : pieces.flatMap Piece.indices = markers text := by
  have pairs := mapM_eq_ok_iff.mp found
  rw [markers]
  clear found
  generalize Skeleton.split text = segments at pairs ⊢
  induction pairs with
  | nil => rfl
  | cons first _ inductionHypothesis =>
    rw [List.flatMap_cons, List.flatMap_cons, inductionHypothesis, (filling.of_piece first).1]

/-- Evaluating an interpolation is recorded, and its value is computed once if it is deferred. -/
theorem evaluate_evaluates {index : Nat} {interpolation : Interpolation}
    (found : filling.interpolation? index = some interpolation) :
    filling.Evaluates [index] (filling.evaluate index interpolation)
      (filling.logging.evaluate index interpolation) := by
  have taken : filling.Evaluates [index]
      (do recordEvaluation index
          useHost (interpolation.value filling.host))
      (do recordEvaluation index
          useHost (interpolation.value filling.logging.host)) := by
    intro session log
    have behind {stop : Session σ} {value : Value}
        (evaluated : stop.evaluated = index :: session.evaluated) :
        filling.Traced [index] session log (.ok value stop)
          (.ok value (stop.logging (log ++ [index].filterMap filling.deferred?))) := .ok evaluated
    simp only [Bind.bind, EStateM.bind, recordEvaluation, Resolve.useHost, Interpolation.value]
    cases source : interpolation.source with
    | held value =>
      have computed : [index].filterMap filling.deferred? = [] := by simp [deferred?, found, source]
      rw [computed, List.append_nil] at behind
      exact behind rfl
    | deferred id =>
      have computed : [index].filterMap filling.deferred? = [id] := by
        simp [deferred?, found, source]
      rw [computed] at behind
      exact behind rfl
  rw [evaluate, evaluate, ← bind_assoc, ← bind_assoc]
  refine taken.bind_nil fun value => ?_
  split
  · exact .pure value
  · split
    · exact .pure _
    · exact .throw [] _

/-- What a piece stands for is evaluated once, before it is converted. -/
theorem fillPiece_evaluates {ofLiteral : Text → α} {convert : Value → Resolution σ (Converted α)}
    {convertLogged : Value → Resolution (σ × List Nat) (Converted α)}
    (values : ∀ value, filling.Evaluates [] (convert value) (convertLogged value)) {piece : Piece}
    (belongs : ∀ index interpolation, piece = .interpolation index interpolation →
      filling.interpolation? index = some interpolation) :
    filling.Evaluates piece.indices (filling.fillPiece ofLiteral convert piece)
      (filling.logging.fillPiece ofLiteral convertLogged piece) := by
  cases piece with
  | literal text => exact .pure _
  | interpolation index interpolation =>
    refine (filling.evaluate_evaluates (belongs index interpolation rfl)).bind_nil fun value => ?_
    exact (values value).bind_nil fun _ => .pure _

/-- The interpolations of a text are evaluated from left to right, if all of its markers stand for
one; none is evaluated otherwise. -/
theorem fill_evaluates (ofLiteral : Text → α) {convert : Value → Resolution σ (Converted α)}
    {convertLogged : Value → Resolution (σ × List Nat) (Converted α)}
    (values : ∀ value, filling.Evaluates [] (convert value) (convertLogged value)) (text : Text) :
    filling.Evaluates (markers text) (filling.fill ofLiteral convert text)
      (filling.logging.fill ofLiteral convertLogged text) := by
  cases found : filling.pieces text with
  | error error =>
    have foundLogged : filling.logging.pieces text = .error error := found
    rw [filling.fill_of_error found, filling.logging.fill_of_error foundLogged]
    exact .throw _ error
  | ok pieces =>
    have foundLogged : filling.logging.pieces text = .ok pieces := found
    rw [filling.fill_of_ok found, filling.logging.fill_of_ok foundLogged,
      ← filling.flatMap_indices_of_pieces found]
    refine (Evaluates.mapM fun piece member => ?_).bind_nil fun _ => .pure _
    obtain ⟨segment, _, made⟩ := exists_of_forall₂ (mapM_eq_ok_iff.mp found).flip member
    exact filling.fillPiece_evaluates values (filling.of_piece made).2

/-- A text inside an element evaluates its own markers. -/
theorem fillChild_evaluates (content : Text) :
    filling.Evaluates (markers content) (filling.fillChild content)
      (filling.logging.fillChild content) :=
  filling.fill_evaluates Child.text convertChild_evaluates content

/-- The name of an attribute with a value evaluates its own markers. -/
theorem fillAttributeKey_evaluates (key : Text) :
    filling.Evaluates (markers key) (filling.fillAttributeKey key)
      (filling.logging.fillAttributeKey key) :=
  filling.fill_evaluates id convertAttributeKey_evaluates key

/-- The value of an attribute evaluates its own markers. -/
theorem fillAttributeValue_evaluates (value : Text) :
    filling.Evaluates (markers value) (filling.fillAttributeValue value)
      (filling.logging.fillAttributeValue value) :=
  filling.fill_evaluates AttributePart.text convertAttributeValue_evaluates value

/-- The name of a tag evaluates its own markers. -/
theorem fillName_evaluates (tag : Text) :
    filling.Evaluates (markers tag) (filling.fillName tag) (filling.logging.fillName tag) :=
  filling.fill_evaluates NamePart.text convertName_evaluates tag

/-! ## Attributes -/

/-- An attribute without a value evaluates the markers of its name. -/
theorem fillBareAttribute_evaluates (key : Text) :
    filling.Evaluates (markers key) (filling.fillBareAttribute key)
      (filling.logging.fillBareAttribute key) := by
  refine (filling.fillAttributeValue_evaluates key).bind_nil fun parts => ?_
  refine (single_evaluates "attribute" parts).bind_nil fun part => ?_
  cases part with
  | map entries =>
    refine (Evaluates.mapM_nil fun entry _ => ?_).bind_nil fun _ => .pure _
    refine (attributeName_evaluates entry.1).bind_nil fun name => ?_
    exact (spreadValue_evaluates entry.2).bind_nil fun _ => .pure _
  | text name => exact (attributeName_evaluates name).bind_nil fun _ => .pure _

/-- The name of an attribute is filled before its value. -/
theorem fillValuedAttribute_evaluates (key value : Text) :
    filling.Evaluates (markers key ++ markers value) (filling.fillValuedAttribute key value)
      (filling.logging.fillValuedAttribute key value) := by
  refine (filling.fillAttributeKey_evaluates key).bind fun names => ?_
  refine (single_evaluates "attribute key" names).nil_bind fun name => ?_
  refine (attributeName_evaluates name).nil_bind fun name => ?_
  refine (filling.fillAttributeValue_evaluates value).bind_nil fun parts => ?_
  split
  · exact .pure _
  · exact .pure _
  · exact .pure _
  · exact .throw [] _

/-- The attributes of a tag evaluate their markers one after the other. -/
theorem fillAttributes_evaluates (written : List WrittenAttribute) :
    filling.Evaluates (written.flatMap attributeMarkers) (filling.fillAttributes written)
      (filling.logging.fillAttributes written) := by
  refine (Evaluates.mapM fun entry _ => ?_).bind_nil fun _ => .pure _
  obtain ⟨key, value⟩ := entry
  cases value with
  | none =>
    rw [attributeMarkers, Option.map_none, Option.getD_none, List.append_nil]
    exact filling.fillBareAttribute_evaluates key
  | some value => exact filling.fillValuedAttribute_evaluates key value

/-! ## Skeletons -/

/-- Making a node of a filled name evaluates nothing. -/
theorem placeName_evaluates (policy : MergePolicy) (attributes : Attributes)
    (children : List Child) (parts : List NamePart) :
    filling.Evaluates [] (placeName policy attributes children parts)
      (placeName policy attributes children parts) := by
  unfold placeName
  split
  · exact .pure _
  · split
    · exact .throw [] _
    · split
      · exact .pure _
      · exact .throw [] _

/-- A tag evaluates the markers of its name, and a fragment none. -/
theorem fillTag_evaluates (tag : Option Text) (attributes : Attributes) (children : List Child) :
    filling.Evaluates ((tag.map markers).getD []) (filling.fillTag tag attributes children)
      (filling.logging.fillTag tag attributes children) := by
  cases tag with
  | none => exact .pure _
  | some tag =>
    rw [fillTag_eq_bind, fillTag_eq_bind]
    exact (filling.fillName_evaluates tag).bind_nil
      (filling.placeName_evaluates filling.policy attributes children)

mutual

/-- A part of a skeleton evaluates its markers from the inside out. -/
theorem fillPart_evaluates (part : Part) :
    filling.Evaluates part.allMarkers (filling.fillPart part) (filling.logging.fillPart part) := by
  cases part with
  | text content =>
    rw [fillPart, fillPart]
    exact filling.fillChild_evaluates content
  | element tag written parts =>
    rw [fillPart, fillPart, Part.allMarkers, List.append_assoc]
    refine (fillParts_evaluates parts).bind fun children => ?_
    refine (filling.fillAttributes_evaluates written).bind fun attributes => ?_
    exact (filling.fillTag_evaluates tag attributes children).bind_nil fun _ => .pure _

/-- The parts of a skeleton evaluate their markers one after the other. -/
theorem fillParts_evaluates (parts : List Part) :
    filling.Evaluates (allMarkersOf parts) (filling.fillParts parts)
      (filling.logging.fillParts parts) := by
  cases parts with
  | nil =>
    rw [fillParts, fillParts]
    exact .pure _
  | cons part parts =>
    rw [fillParts, fillParts, allMarkersOf]
    refine (fillPart_evaluates part).bind fun children => ?_
    exact (fillParts_evaluates parts).bind_nil fun _ => .pure _

end

/-- Filling a skeleton evaluates the interpolation of every marker once, in the order of the
markers; if it fails, it has evaluated a beginning of them. A host that keeps a log computes the
deferred ones in this order, each as often as it has markers, and nothing else is different. -/
theorem fillTree_evaluates (tree : Tree) (session : Session σ) (log : List Nat) :
    filling.Traced tree.allMarkers session log (filling.fillTree tree session)
      (filling.logging.fillTree tree (session.logging log)) := by
  have filled : filling.Evaluates tree.allMarkers (filling.fillTree tree)
      (filling.logging.fillTree tree) := by
    rw [Tree.allMarkers, Tree.toPart, Part.allMarkers, List.append_assoc]
    refine (filling.fillParts_evaluates tree.children).bind fun children => ?_
    refine (filling.fillAttributes_evaluates tree.attributes).bind fun attributes => ?_
    exact filling.fillTag_evaluates tree.tag attributes children
  exact filled session log

/-- A filling with three deferred interpolations, which are computed to one text. -/
def ofDeferred (text : Text) : Filling Unit where
  host := { Host.none with compute := fun _ state => (.text text, state) }
  items := [0, 1, 2].map fun id => .interpolation { expr := ['c'], source := .deferred id }

/-- The interpolations of a paragraph are computed from the inside out: what stands in it, its
attribute, its tag. If the text is no name, filling fails at the attribute, and the tag is not
computed any more. -/
theorem fillTree_evaluates_paragraph :
    let tree : Tree :=
      { tag := some (Skeleton.marker 0)
        attributes := [(Skeleton.marker 1, none)]
        children := [.text ('a' :: Skeleton.marker 2)] }
    let name := ofDeferred ['p']
    let blank := ofDeferred [' ']
    (∃ node stop,
      name.fillTree tree { state := () } = .ok node stop ∧
        node.render = "<p p>ap</p>".toList ∧
        name.logging.fillTree tree (Session.logging { state := () } []) =
          .ok node (stop.logging [2, 1, 0])) ∧
      ∃ error stop,
        blank.fillTree tree { state := () } = .error error stop ∧
          blank.logging.fillTree tree (Session.logging { state := () } []) =
            .error error (stop.logging [2, 1]) := by
  intro tree name blank
  refine ⟨?_, ?_⟩
  · have traced := name.fillTree_evaluates tree { state := () } []
    have run : seen (name.fillTree tree { state := () }) =
        (.ok "<p p>ap</p>".toList, [0, 1, 2]) := by decide +kernel
    obtain ⟨node, stop, filled, rendered, _⟩ := exists_of_seen_ok run
    rw [filled] at traced
    have order : tree.allMarkers.filterMap name.deferred? = [2, 1, 0] := by decide +kernel
    refine ⟨node, stop, filled, rendered, traced.eq_ok.trans ?_⟩
    rw [order, List.nil_append]
  · have traced := blank.fillTree_evaluates tree { state := () } []
    have run : seen (blank.fillTree tree { state := () }) =
        (.error (.invalidAttributeName [' ']), [1, 2]) := by decide +kernel
    obtain ⟨stop, failed, begun⟩ := exists_of_seen_error run
    rw [failed] at traced
    obtain ⟨calls, _, evaluated, logged⟩ := traced.eq_error
    have called : calls = [2, 1] := by simpa [begun] using evaluated.symm
    have computed : [2, 1].filterMap blank.deferred? = [2, 1] := by decide
    refine ⟨_, stop, failed, ?_⟩
    rw [logged, called, computed, List.nil_append]

end Filling

end Resolve

end HtmlTemplate
