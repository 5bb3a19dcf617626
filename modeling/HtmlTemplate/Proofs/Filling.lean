import HtmlTemplate.Proofs.Agreement
import HtmlTemplate.Proofs.Markers
import HtmlTemplate.Resolve.Fill

/-!
# Filled texts

What filling gives for a text with markers if the interpolations that they stand for hold
texts: alone (`Filling.fill_gives`), and compared with another filling
(`Filling.fill_agree`). The steps in which tags and parts are filled have their equations here
as well.
-/

namespace HtmlTemplate

/-- An interpolation holds a text and shows it as it is. -/
structure Interpolation.HoldsText (interpolation : Interpolation) (text : Text) : Prop where
  source : interpolation.source = .held (.text text)
  conversion : interpolation.conversion = none
  spec : interpolation.spec = none

/-- An interpolation holds a value and shows it as it is. -/
structure Interpolation.Holds (interpolation : Interpolation) (value : Value) : Prop where
  source : interpolation.source = .held value
  conversion : interpolation.conversion = none
  spec : interpolation.spec = none

/-- A text that is held is a value that is held. -/
theorem Interpolation.HoldsText.holds {interpolation : Interpolation} {text : Text}
    (holds : interpolation.HoldsText text) : interpolation.Holds (.text text) :=
  ⟨holds.source, holds.conversion, holds.spec⟩

namespace Resolve

open Markup (Attributes Child Node)
open Skeleton (Part Segment Tree markers split)

/-! ## Steps that fail before anything is evaluated -/

/-- Two outcomes are related results or the same error. -/
inductive Alike {α β : Type} (related : α → β → Prop) :
    Except Error α → Except Error β → Prop where
  | ok {result : α} {result' : β} (holds : related result result') :
      Alike related (.ok result) (.ok result')
  | error (error : Error) : Alike related (.error error) (.error error)

/-- Lists whose elements have outcomes alike one by one have outcomes alike. -/
theorem Alike.mapM {α β γ δ : Type} {related : γ → δ → Prop} {step : α → Except Error γ}
    {step' : β → Except Error δ} {list : List α} {list' : List β}
    (pairs : List.Forall₂ (fun element element' => Alike related (step element) (step' element'))
      list list') :
    Alike (List.Forall₂ related) (list.mapM step) (list'.mapM step') := by
  induction pairs with
  | nil => exact .ok .nil
  | @cons element element' list list' first _ inductionHypothesis =>
    simp only [List.mapM_cons]
    generalize step element = outcome, step' element' = outcome' at first ⊢
    cases first with
    | error error => exact .error error
    | ok holds =>
      generalize list.mapM step = rest, list'.mapM step' = rest' at inductionHypothesis ⊢
      cases inductionHypothesis with
      | error error => exact .error error
      | ok hold => exact .ok (.cons holds hold)

/-- A step succeeds on a list exactly if it succeeds on the elements one by one. -/
theorem mapM_eq_ok_iff {α β : Type} {step : α → Except Error β} {list : List α}
    {results : List β} :
    list.mapM step = .ok results ↔
      List.Forall₂ (fun element result => step element = .ok result) list results := by
  induction list generalizing results with
  | nil =>
    rw [List.mapM_nil, List.forall₂_nil_left_iff]
    exact ⟨fun ran => (Except.ok.inj ran).symm, fun empty => congrArg Except.ok empty.symm⟩
  | cons element list inductionHypothesis =>
    rw [List.mapM_cons, List.forall₂_cons_left_iff]
    constructor
    · intro ran
      cases first : step element with
      | error error =>
        rw [first] at ran
        cases ran
      | ok result =>
        cases rest : list.mapM step with
        | error error =>
          rw [first, rest] at ran
          cases ran
        | ok others =>
          rw [first, rest] at ran
          exact ⟨result, others, rfl, inductionHypothesis.mp rest, (Except.ok.inj ran).symm⟩
    · rintro ⟨result, others, first, rest, rfl⟩
      rw [first, inductionHypothesis.mpr rest]
      rfl

/-- What each element has a partner for, a list has a list of partners for. -/
theorem exists_forall₂ {α β : Type} {related : α → β → Prop} {list : List α}
    (each : ∀ element ∈ list, ∃ partner, related element partner) :
    ∃ partners, List.Forall₂ related list partners := by
  induction list with
  | nil => exact ⟨[], .nil⟩
  | cons element list inductionHypothesis =>
    obtain ⟨partner, first⟩ := each element (by simp)
    obtain ⟨partners, others⟩ := inductionHypothesis fun other member =>
      each other (List.mem_cons_of_mem element member)
    exact ⟨partner :: partners, .cons first others⟩

/-- Every element of a list has a partner in a list that goes with it. -/
theorem exists_of_forall₂ {α β : Type} {related : α → β → Prop} {list : List α}
    {list' : List β} (pairs : List.Forall₂ related list list') {element : α}
    (member : element ∈ list) : ∃ element' ∈ list', related element element' := by
  induction pairs with
  | nil => cases member
  | @cons _ element' _ _ first _ inductionHypothesis =>
    rcases List.mem_cons.mp member with rfl | member
    · exact ⟨element', by simp, first⟩
    · obtain ⟨other, within, holds⟩ := inductionHypothesis member
      exact ⟨other, List.mem_cons_of_mem _ within, holds⟩

/-- What the parts of a tag's name give with attributes and children. -/
def placeName {σ : Type} (policy : MergePolicy) (attributes : Attributes)
    (children : List Child) (parts : List NamePart) : Resolution σ Node :=
  match parts with
  | [.node node] => pure (merge policy node attributes children)
  | parts =>
    match Filling.nameText? parts with
    | none => throw (.ambiguousComponent parts.length)
    | some name =>
      if isTagName name then pure { tag := name, attributes, children }
      else throw (.invalidTagName name)

/-- What is made of the parts of a tag's name: they are a node alone, which is merged, or a valid
name. -/
theorem placeName_eq_ok {σ : Type} {policy : MergePolicy} {attributes : Attributes}
    {children : List Child} {parts : List NamePart} {session session' : Session σ} {node : Node}
    (ran : placeName policy attributes children parts session = .ok node session') :
    session' = session ∧
      ((∃ html, parts = [.node html] ∧ node = merge policy html attributes children) ∨
        ∃ name, isTagName name = true ∧ node = { tag := name, attributes, children }) := by
  unfold placeName at ran
  split at ran
  · cases ran
    exact ⟨rfl, .inl ⟨_, rfl, rfl⟩⟩
  · cases named : Filling.nameText? parts with
    | none =>
      rw [named] at ran
      cases ran
    | some name =>
      by_cases valid : isTagName name = true
      · simp only [named, if_pos valid] at ran
        cases ran
        exact ⟨rfl, .inr ⟨name, valid, rfl⟩⟩
      · simp only [named, if_neg valid] at ran
        cases ran

/-- A text inside an element becomes a text that is escaped. -/
theorem convertChild_gives {σ : Type} (host : Host σ) (text : Text) :
    Gives (convertChild host (.text text)) (.one (.text (Markup.escape text))) :=
  fun session => ⟨session, rfl⟩

/-- What is seen of a run: the markup it gives or the error it fails with, and the interpolations
that it has evaluated, the latest first. -/
def seen {σ : Type} : EStateM.Result Error (Session σ) Node → Except Error Text × List Nat
  | .ok node session => (.ok node.render, session.evaluated)
  | .error error session => (.error error, session.evaluated)

/-- A run in which markup is seen gives a node with that markup. -/
theorem exists_of_seen_ok {σ : Type} {outcome : EStateM.Result Error (Session σ) Node}
    {text : Text} {evaluated : List Nat} (run : seen outcome = (.ok text, evaluated)) :
    ∃ node session, outcome = .ok node session ∧ node.render = text ∧
      session.evaluated = evaluated := by
  cases outcome with
  | ok node session =>
    cases run
    exact ⟨node, session, rfl, rfl, rfl⟩
  | error error session => cases run

/-- A run in which an error is seen fails with that error. -/
theorem exists_of_seen_error {σ : Type} {outcome : EStateM.Result Error (Session σ) Node}
    {error : Error} {evaluated : List Nat} (run : seen outcome = (.error error, evaluated)) :
    ∃ session, outcome = .error error session ∧ session.evaluated = evaluated := by
  cases outcome with
  | ok node session => cases run
  | error error session =>
    cases run
    exact ⟨session, rfl, rfl⟩

namespace Filling

variable {σ α β : Type} (filling : Filling σ)

/-- The interpolation that a marker stands for, if its index belongs to one. -/
def interpolation? (index : Nat) : Option Interpolation :=
  filling.items[index]?.bind Item.interpolation?

/-- Literal text is a piece as it is. -/
theorem piece_literal (text : Text) : filling.piece (.literal text) = .ok (.literal text) := rfl

/-- A marker that belongs to an interpolation stands for it. -/
theorem piece_of_some {index : Nat} {interpolation : Interpolation}
    (found : filling.interpolation? index = some interpolation) :
    filling.piece (.marker index) = .ok (.interpolation index interpolation) := by
  simp only [piece]
  rw [interpolation?] at found
  rw [found]

/-- A marker that belongs to no interpolation dangles. -/
theorem piece_of_none {index : Nat} (dangling : filling.interpolation? index = none) :
    filling.piece (.marker index) = .error (.danglingMarker index) := by
  simp only [piece]
  rw [interpolation?] at dangling
  rw [dangling]

/-- An interpolation has the value that it holds. -/
theorem evaluate_gives_held {interpolation : Interpolation} {value : Value}
    (holds : interpolation.Holds value) (index : Nat) :
    Gives (filling.evaluate index interpolation) value := by
  have recorded : Gives (recordEvaluation index : Resolution σ Unit) () :=
    fun _ => ⟨_, rfl⟩
  have taken : Gives (useHost (interpolation.value filling.host)) value := by
    intro session
    refine ⟨session, ?_⟩
    simp [useHost, Interpolation.value, holds.source]
  refine recorded.bind (taken.bind ?_)
  simp only [holds.conversion, holds.spec]
  exact .pure _

/-- An interpolation that holds a text has it as its value. -/
theorem evaluate_gives {interpolation : Interpolation} {text : Text}
    (holds : interpolation.HoldsText text) (index : Nat) :
    Gives (filling.evaluate index interpolation) (.text text) :=
  filling.evaluate_gives_held holds.holds index

/-- The fragments of one piece. -/
def fillPiece (ofLiteral : Text → α) (convert : Value → Resolution σ (Converted α)) :
    Piece → Resolution σ (List α)
  | .literal text => pure [ofLiteral text]
  | .interpolation index interpolation => do
    let value ← filling.evaluate index interpolation
    let converted ← convert value
    pure converted.toList

/-- A text with a marker that dangles is not filled at all. -/
theorem fill_of_error {ofLiteral : Text → α} {convert : Value → Resolution σ (Converted α)}
    {text : Text} {error : Error} (failed : filling.pieces text = .error error) :
    filling.fill ofLiteral convert text = throw error := by
  simp only [fill, failed]

/-- A text is filled piece by piece. -/
theorem fill_of_ok {ofLiteral : Text → α} {convert : Value → Resolution σ (Converted α)}
    {text : Text} {pieces : List Piece} (found : filling.pieces text = .ok pieces) :
    filling.fill ofLiteral convert text =
      (pieces.mapM (filling.fillPiece ofLiteral convert) >>= fun fragments =>
        pure fragments.flatten) := by
  simp only [fill, found]
  congr 2

/-- A text is filled only if all of its markers stand for interpolations. -/
theorem exists_of_fill {ofLiteral : Text → α} {convert : Value → Resolution σ (Converted α)}
    {text : Text} {fragments : List α} {session session' : Session σ}
    (ran : filling.fill ofLiteral convert text session = .ok fragments session') :
    ∀ index ∈ markers text, ∃ interpolation, filling.interpolation? index = some interpolation := by
  intro index member
  cases found : filling.pieces text with
  | error error =>
    rw [filling.fill_of_error found] at ran
    cases ran
  | ok pieces =>
    obtain ⟨piece, _, made⟩ :=
      exists_of_forall₂ (mapM_eq_ok_iff.mp found) (Skeleton.mem_markers.mp member)
    cases place : filling.interpolation? index with
    | none =>
      rw [filling.piece_of_none place] at made
      cases made
    | some interpolation => exact ⟨interpolation, rfl⟩

/-! ## One filling -/

/-- The fragment that a segment gives if every interpolation gives one. -/
def fragmentOf (ofLiteral : Text → α) (ofMarker : Nat → α) : Segment → α
  | .literal text => ofLiteral text
  | .marker index => ofMarker index

/-- If every marker of a text stands for a value that is converted to one fragment, the
fragments are those of the segments. -/
theorem fill_gives_held {ofLiteral : Text → α} {convert : Value → Resolution σ (Converted α)}
    {text : Text} (ofMarker : Nat → α)
    (held : ∀ index ∈ markers text, ∃ interpolation value,
      filling.interpolation? index = some interpolation ∧ interpolation.Holds value ∧
        Gives (convert value) (.one (ofMarker index))) :
    Gives (filling.fill ofLiteral convert text)
      ((split text).map (fragmentOf ofLiteral ofMarker)) := by
  have each : ∀ segment ∈ split text, ∃ piece, filling.piece segment = .ok piece ∧
      Gives (filling.fillPiece ofLiteral convert piece)
        [fragmentOf ofLiteral ofMarker segment] := by
    intro segment member
    cases segment with
    | literal literal => exact ⟨.literal literal, filling.piece_literal literal, .pure _⟩
    | marker index =>
      obtain ⟨interpolation, value, found, holds, converts⟩ :=
        held index (Skeleton.mem_markers.mpr member)
      refine ⟨.interpolation index interpolation, filling.piece_of_some found, ?_⟩
      exact (filling.evaluate_gives_held holds index).bind (converts.bind (.pure _))
  obtain ⟨pieces, pairs⟩ := exists_forall₂ each
  have found : filling.pieces text = .ok pieces :=
    mapM_eq_ok_iff.mpr (pairs.imp fun _ _ both => both.1)
  have fragments : List.Forall₂
      (fun piece result => Gives (filling.fillPiece ofLiteral convert piece) result) pieces
      ((split text).map fun segment => [fragmentOf ofLiteral ofMarker segment]) := by
    rw [List.forall₂_map_right_iff]
    exact (pairs.imp fun _ _ both => both.2).flip
  have flat : ((split text).map fun segment => [fragmentOf ofLiteral ofMarker segment]).flatten =
      (split text).map (fragmentOf ofLiteral ofMarker) := by
    rw [← List.flatMap_def, List.map_eq_flatMap]
  rw [filling.fill_of_ok found, ← flat]
  exact (Gives.mapM fragments).bind (.pure _)

/-- A text whose markers stand for texts gives one fragment for each of its segments. -/
theorem fill_gives {ofLiteral : Text → α} {convert : Value → Resolution σ (Converted α)}
    {text : Text} (ofMarker : Nat → α)
    (held : ∀ index ∈ markers text, ∃ interpolation value,
      filling.interpolation? index = some interpolation ∧ interpolation.HoldsText value ∧
        Gives (convert (.text value)) (.one (ofMarker index))) :
    Gives (filling.fill ofLiteral convert text)
      ((split text).map (fragmentOf ofLiteral ofMarker)) := by
  refine filling.fill_gives_held ofMarker fun index member => ?_
  obtain ⟨interpolation, text, found, holds, converts⟩ := held index member
  exact ⟨interpolation, .text text, found, holds.holds, converts⟩

/-- A marker alone gives the one fragment that the value of its interpolation is converted
to. -/
theorem fill_gives_marker {ofLiteral : Text → α} {convert : Value → Resolution σ (Converted α)}
    {index : Nat} {interpolation : Interpolation} {value : Value} {fragment : α}
    (fits : index ≤ Skeleton.markerLimit)
    (found : filling.interpolation? index = some interpolation)
    (holds : interpolation.Holds value) (converts : Gives (convert value) (.one fragment)) :
    Gives (filling.fill ofLiteral convert (Skeleton.marker index)) [fragment] := by
  have alone : split (Skeleton.marker index) = [.marker index] :=
    Skeleton.split_append_marker (List.not_mem_nil : '$' ∉ ([] : Text)) fits
  have gives : Gives (filling.fill ofLiteral convert (Skeleton.marker index))
      ((split (Skeleton.marker index)).map (fragmentOf ofLiteral fun _ => fragment)) := by
    refine filling.fill_gives_held _ fun other member => ?_
    obtain rfl : other = index := by
      simpa [markers, alone, Segment.indices] using member
    exact ⟨interpolation, value, found, holds, converts⟩
  rwa [alone] at gives

/-- Text without markers that is not empty is its own only fragment. -/
theorem fill_gives_literal {ofLiteral : Text → α}
    {convert : Value → Resolution σ (Converted α)} {text literal : Text}
    (alone : split text = [.literal literal]) :
    Gives (filling.fill ofLiteral convert text) [ofLiteral literal] := by
  have unmarked : markers text = [] := by simp [markers, alone, Segment.indices]
  have gives : Gives (filling.fill ofLiteral convert text)
      ((split text).map (fragmentOf ofLiteral fun _ => ofLiteral literal)) :=
    filling.fill_gives _ (by simp [unmarked])
  rwa [alone] at gives

/-- An empty text has no fragments. -/
theorem fill_gives_nil (ofLiteral : Text → α) (convert : Value → Resolution σ (Converted α)) :
    Gives (filling.fill ofLiteral convert []) [] := by
  have empty : filling.pieces [] = .ok [] := by
    rw [pieces, Skeleton.split_nil]
    rfl
  rw [filling.fill_of_ok empty]
  exact .pure _

/-! ## Two fillings -/

/-- What an index stands for in two fillings: no interpolation in either, or one in each, with
texts that are converted alike. -/
inductive SameAt (filling filling' : Filling σ) (index : Nat)
    (converted : Text → Text → Prop) : Prop where
  | dangling (nowhere : filling.interpolation? index = none)
      (nowhere' : filling'.interpolation? index = none)
  | held {interpolation interpolation' : Interpolation} {text text' : Text}
      (found : filling.interpolation? index = some interpolation)
      (found' : filling'.interpolation? index = some interpolation')
      (holds : interpolation.HoldsText text) (holds' : interpolation'.HoldsText text')
      (alike : converted text text')

section Two

variable {filling filling' : Filling σ} {related : α → β → Prop}
  {ofLiteral : Text → α} {ofLiteral' : Text → β}
  {convert : Value → Resolution σ (Converted α)} {convert' : Value → Resolution σ (Converted β)}

/-- An interpolation with texts that are converted alike gives related fragments. -/
theorem fillPiece_agree {index : Nat} {interpolation interpolation' : Interpolation}
    {text text' : Text} (holds : interpolation.HoldsText text)
    (holds' : interpolation'.HoldsText text')
    (alike : Agree (fun given given' => List.Forall₂ related given.toList given'.toList)
      (convert (.text text)) (convert' (.text text'))) :
    Agree (List.Forall₂ related)
      (filling.fillPiece ofLiteral convert (.interpolation index interpolation))
      (filling'.fillPiece ofLiteral' convert' (.interpolation index interpolation')) := by
  have evaluated : Agree (fun value value' =>
      Agree (fun given given' => List.Forall₂ related given.toList given'.toList)
        (convert value) (convert' value'))
      (filling.evaluate index interpolation) (filling'.evaluate index interpolation') :=
    .of_gives (filling.evaluate_gives holds index) (filling'.evaluate_gives holds' index) alike
  exact evaluated.bind fun value value' agree =>
    agree.bind fun given given' hold => .pure hold

/-- Two fillings find pieces with related fragments, or miss the same interpolation, in a text
whose markers stand for texts that are converted alike. -/
theorem pieces_alike {text : Text}
    (literals : ∀ literal, related (ofLiteral literal) (ofLiteral' literal))
    (same : ∀ index ∈ markers text, SameAt filling filling' index fun value value' =>
      Agree (fun given given' => List.Forall₂ related given.toList given'.toList)
        (convert (.text value)) (convert' (.text value'))) :
    Alike (List.Forall₂ fun piece piece' =>
        Agree (List.Forall₂ related) (filling.fillPiece ofLiteral convert piece)
          (filling'.fillPiece ofLiteral' convert' piece'))
      (filling.pieces text) (filling'.pieces text) := by
  apply Alike.mapM
  rw [List.forall₂_same]
  intro segment member
  cases segment with
  | literal literal => exact .ok (.pure (.cons (literals literal) .nil))
  | marker index =>
    cases same index (Skeleton.mem_markers.mpr member) with
    | dangling nowhere nowhere' =>
      rw [filling.piece_of_none nowhere, filling'.piece_of_none nowhere']
      exact .error _
    | held found found' holds holds' alike =>
      rw [filling.piece_of_some found, filling'.piece_of_some found']
      exact .ok (fillPiece_agree holds holds' alike)

/-- Two fillings give related fragments, or fail alike, for a text whose markers stand for
texts that do. -/
theorem fill_agree {text : Text}
    (literals : ∀ literal, related (ofLiteral literal) (ofLiteral' literal))
    (same : ∀ index ∈ markers text, SameAt filling filling' index fun value value' =>
      Agree (fun given given' => List.Forall₂ related given.toList given'.toList)
        (convert (.text value)) (convert' (.text value'))) :
    Agree (List.Forall₂ related) (filling.fill ofLiteral convert text)
      (filling'.fill ofLiteral' convert' text) := by
  have pairs := pieces_alike literals same
  generalize found : filling.pieces text = outcome, found' : filling'.pieces text = outcome'
    at pairs
  cases pairs with
  | error error =>
    rw [filling.fill_of_error found, filling'.fill_of_error found']
    exact Agree.throw error
  | ok agreeing =>
    rw [filling.fill_of_ok found, filling'.fill_of_ok found']
    refine (Agree.mapM agreeing fun _ _ agree => agree).bind fun fragments fragments' hold => ?_
    exact .pure (List.rel_flatten hold)

end Two

/-! ## Skeletons -/

/-- A tag is filled name first, and then the name is put in its place. -/
theorem fillTag_eq_bind (tag : Text) (attributes : Attributes) (children : List Child) :
    filling.fillTag (some tag) attributes children =
      (filling.fillName tag >>= placeName filling.policy attributes children) := rfl

/-- A filling with one interpolation, which holds a node. -/
def ofNode (html : Node) : Filling Unit where
  host := Host.none
  items := [.interpolation { expr := ['c'], source := .held (.markup html) }]

/-- The node that is held takes the place of the name of a tag. -/
theorem ofNode_gives (html : Node) (attributes : Attributes) (children : List Child) :
    Gives ((ofNode html).fillTag (some (Skeleton.marker 0)) attributes children)
      (merge .nodeWins html attributes children) := by
  let interpolation : Interpolation := { expr := ['c'], source := .held (.markup html) }
  have holds : interpolation.Holds (.markup html) := ⟨rfl, rfl, rfl⟩
  have name : Gives ((ofNode html).fillName (Skeleton.marker 0)) [.node html] :=
    (ofNode html).fill_gives_marker (by decide) rfl holds (.pure _)
  exact name.bind (.pure _)

/-- A skeleton is filled as the part that it is. -/
theorem fillPart_toPart (tree : Tree) :
    filling.fillPart tree.toPart = (filling.fillTree tree >>= fun node => pure [node.toChild]) := by
  simp [Tree.toPart, fillPart, fillTree]

/-- Parts are filled one after the other. -/
theorem fillParts_append (before after : List Part) :
    filling.fillParts (before ++ after) =
      (filling.fillParts before >>= fun children =>
        filling.fillParts after >>= fun more => pure (children ++ more)) := by
  induction before with
  | nil => simp [fillParts]
  | cons part before inductionHypothesis =>
    simp only [List.cons_append, fillParts, inductionHypothesis, bind_assoc, pure_bind,
      List.append_assoc]

end Filling

end Resolve

end HtmlTemplate
