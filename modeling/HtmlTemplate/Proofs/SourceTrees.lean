import HtmlTemplate.Proofs.Building
import HtmlTemplate.Proofs.RoundTrip
import HtmlTemplate.Proofs.SourceTokens

/-!
# Trees that one text resolves to

A text without interpolations that resolves at all resolves to elements with names that are read
back and settled attributes, to texts that are not empty, and to raw elements that hold one text
at most (`exists_settled_of_render`). The skeleton has these properties because its tokens do,
and filling keeps them because no marker stands for anything.
-/

namespace HtmlTemplate

open Markup

/-- A child that one text can resolve to. -/
inductive Markup.Child.Sourced : Child → Prop where
  | text {content : Text} (nonempty : content ≠ []) : Child.Sourced (.text content)
  | element {tag : Text} {attributes : Attributes} {children : List Child}
      (named : SettledTag tag) (keyed : ReadableKeys attributes)
      (settled : settledAttributes attributes = attributes)
      (inside : ∀ child ∈ children, Child.Sourced child)
      (raw : tag ∈ rawElements → children = [] ∨ ∃ content, children = [.text content]) :
      Child.Sourced (.element tag attributes children)

namespace Skeleton

/-! ## Skeletons of regular tokens -/

/-- A part of a skeleton that is built of regular tokens. -/
inductive Part.Regular : Part → Prop where
  | text {content : Text} (nonempty : content ≠ []) : Part.Regular (.text content)
  | element {tag : Text} {attributes : List WrittenAttribute} {children : List Part}
      (names : SmallNames tag attributes) (inside : ∀ child ∈ children, Part.Regular child)
      (raw : tag ∈ rawElements → children = [] ∨ ∃ content, children = [.text content]) :
      Part.Regular (.element (some tag) attributes children)

/-- An open element of which this holds so far; it is no raw element. -/
structure OpenElement.Regular (element : OpenElement) : Prop where
  names : SmallNames element.tag element.attributes
  inside : ∀ child ∈ element.children, child.Regular
  ordinary : element.tag ∉ rawElements

namespace Builder

/-- A builder with regular parts only. -/
structure Regular (builder : Builder) : Prop where
  roots : ∀ part ∈ builder.roots, part.Regular
  opened : ∀ element ∈ builder.opened, element.Regular

theorem Regular.append {builder : Builder} (regular : builder.Regular) {part : Part}
    (further : part.Regular) : (builder.append part).Regular := by
  constructor
  · intro other member
    rcases mem_roots_append member with member | rfl
    · exact regular.roots other member
    · exact further
  · intro element member
    obtain ⟨before, among, tag, attributes, children⟩ := exists_of_mem_opened_append member
    obtain ⟨names, inside, ordinary⟩ := regular.opened before among
    refine ⟨by rw [tag, attributes]; exact names, ?_, by rwa [tag]⟩
    intro child within
    rcases children child within with within | rfl
    · exact inside child within
    · exact further

theorem Regular.finish {builder : Builder} (regular : builder.Regular) {element : OpenElement}
    {outer : List OpenElement} (inside : builder.opened = element :: outer) :
    (builder.finish element outer).Regular := by
  obtain ⟨names, children, ordinary⟩ := regular.opened element (by simp [inside])
  have outside : ({ builder with opened := outer } : Builder).Regular :=
    ⟨regular.roots, fun other member =>
      regular.opened other (by simp [inside, member])⟩
  exact outside.append (.element names children fun raw => absurd raw ordinary)

theorem rawTextToken_eq_map (content : Text) :
    rawTextToken content = (if content = [] then [] else [content]).map .text := by
  by_cases empty : content = [] <;> simp [rawTextToken, empty]

/-- All regular tokens that a builder takes without a fault leave regular parts, if no element
stays open. -/
theorem Regular.handleAll {tokens : List Token} (source : Markup.Regular tokens)
    {builder builder' : Builder} {item : Nat} (regular : builder.Regular)
    (handled : builder.handleAll item tokens = (.ok (), builder')) (closed : builder'.opened = []) :
    builder'.Regular := by
  induction source generalizing builder with
  | nil =>
    cases handled
    exact regular
  | text nonempty _ inductionHypothesis =>
    rw [handleAll_of_ok rfl] at handled
    exact inductionHypothesis (regular.append (.text nonempty)) handled
  | @startTag name attributes closing tokens names ordinary _ inductionHypothesis =>
    cases closing with
    | true =>
      rw [handleAll_of_ok rfl] at handled
      exact inductionHypothesis
        (regular.append (.element names (by simp) fun _ => .inl rfl)) handled
    | false =>
      rw [handleAll_of_ok rfl] at handled
      have outside : name ∉ rawElements := fun among => by simp [rawElementAfter, among] at ordinary
      have opened : ({ tag := name, attributes, item } : OpenElement).Regular :=
        ⟨names, by simp, outside⟩
      have behind : ({ builder with
            opened := { tag := name, attributes, item } :: builder.opened } : Builder).Regular :=
        ⟨regular.roots, List.forall_mem_cons.mpr ⟨opened, regular.opened⟩⟩
      exact inductionHypothesis behind handled
  | @raw name attributes tokens names content found _ inductionHypothesis =>
    rw [handleAll_of_ok rfl, rawTextToken_eq_map, handleAll_append, handleAll_texts,
      appendAll_opened] at handled
    obtain ⟨between, ended, handled⟩ := exists_of_handleAll_cons handled
    obtain ⟨element, outer, inside, rfl⟩ := exists_of_handle_endTag ended
    cases inside
    refine inductionHypothesis (regular.append (.element names ?_ fun _ => ?_)) handled
    · by_cases empty : content = []
      · simp [empty]
      · simpa [empty] using Part.Regular.text empty
    · by_cases empty : content = []
      · exact .inl (by simp [empty])
      · exact .inr ⟨content, by simp [empty]⟩
  | rawOpen texts =>
    rw [handleAll_of_ok rfl, handleAll_texts, appendAll_opened] at handled
    cases handled
    cases closed
  | endTag name _ inductionHypothesis =>
    obtain ⟨between, ended, handled⟩ := exists_of_handleAll_cons handled
    obtain ⟨element, outer, inside, rfl⟩ := exists_of_handle_endTag ended
    exact inductionHypothesis (regular.finish inside) handled
  | genericClose _ inductionHypothesis =>
    obtain ⟨between, ended, handled⟩ := exists_of_handleAll_cons handled
    obtain ⟨element, outer, inside, rfl⟩ := exists_of_handle_genericClose ended
    exact inductionHypothesis (regular.finish inside) handled

end Builder

/-- The skeleton of one text has regular parts, and at least one. -/
theorem regular_of_ofItems {chunk : Chunk} {tree : Tree}
    (built : ofItems [.text chunk] = .ok tree) :
    ∃ parts, parts ≠ [] ∧ (∀ part ∈ parts, part.Regular) ∧ tree = treeOf parts := by
  let first : Builder :=
    { tokenizer := (Tokenizer.feed {} (protect chunk.decoded)).2, index := 1 }
  obtain ⟨builder, fed, resulted⟩ := exists_of_ofItems built
  have handled : first.handleAll 0 (Tokenizer.feed {} (protect chunk.decoded)).1 =
      (.ok (), builder) := by
    simp only [Builder.feedAll] at fed
    split at fed
    · rename_i fedFirst
      cases fed
      exact fedFirst
    · cases fed
  have same := Builder.sameInput_handleAll first 0 (Tokenizer.feed {} (protect chunk.decoded)).1
  rw [handled] at same
  obtain ⟨last, closed, outside, nonempty, rfl⟩ := Builder.exists_of_result resulted
  rw [same.index, same.tokenizer] at closed
  have all : first.handleAll 0 (tokensOfSource none (protect chunk.decoded)) = (.ok (), last) := by
    rw [tokensOfSource, Builder.handleAll_append]
    simp only [Tokenizer.feed, List.nil_append] at handled
    rw [handled]
    exact closed
  have empty : first.Regular := ⟨by simp [first], by simp [first]⟩
  exact ⟨last.roots, nonempty,
    (empty.handleAll (regular_tokensOfSource none _ (by simp)) all outside).roots, rfl⟩

end Skeleton

namespace Resolve

open Skeleton (Part restore split)

namespace Filling

variable {σ : Type} {filling : Filling σ}

/-! ## Filling without interpolations -/

/-- No index belongs to an interpolation. -/
def Bare (filling : Filling σ) : Prop :=
  ∀ index, filling.interpolation? index = none

/-- A text that is filled although nothing stands for a marker gives itself. -/
theorem Bare.eq_of_fill (bare : filling.Bare) {α : Type} {ofLiteral : Text → α}
    {convert : Value → Resolution σ (Converted α)} {text : Text} {fragments : List α}
    {session session' : Session σ}
    (ran : filling.fill ofLiteral convert text session = .ok fragments session') :
    fragments = if text = [] then [] else [ofLiteral (restore text)] := by
  have unmarked : Skeleton.markers text = [] := by
    rw [List.eq_nil_iff_forall_not_mem]
    intro index member
    obtain ⟨interpolation, found⟩ := filling.exists_of_fill ran index member
    rw [bare index] at found
    cases found
  have whole := Skeleton.split_of_unmarked unmarked
  by_cases empty : text = []
  · subst empty
    exact (filling.fill_gives_nil ofLiteral convert).eq_of_ran ran
  · rw [Skeleton.gatheredLiteral_of_ne_nil (by simpa using empty), List.reverse_reverse] at whole
    rw [if_neg empty]
    exact (filling.fill_gives_literal whole).eq_of_ran ran

theorem isAttributeName_of_attributeName {name name' : Text} {session session' : Session σ}
    (ran : attributeName name session = .ok name' session') :
    isAttributeName name = true ∧ name' = name := by
  unfold attributeName at ran
  split at ran
  · rename_i valid
    cases ran
    exact ⟨valid, rfl⟩
  · cases ran

/-- A valid name of an attribute is the text that it was restored from. -/
theorem isAttributeName_of_restore {key : Text} (valid : isAttributeName (restore key) = true) :
    restore key = key :=
  Skeleton.restore_eq_self (not_mem_of_isAttributeName '$' valid (by decide))

/-- An attribute that is filled keeps its name and has a settled value. -/
theorem Bare.exists_of_fillAttribute (bare : filling.Bare) {key : Text} {value : Option Text}
    {attributes : Attributes} {session session' : Session σ}
    (ran : filling.fillAttribute key value session = .ok attributes session') :
    ∃ given : Attribute, attributes = [(key, given)] ∧ given.settled = given ∧
      isAttributeName key = true := by
  cases value with
  | none =>
    obtain ⟨parts, between, ranParts, ran⟩ := exists_of_bind_eq_ok ran
    obtain ⟨part, between', ranPart, ran⟩ := exists_of_bind_eq_ok ran
    have given := bare.eq_of_fill ranParts
    split at given
    · subst given
      cases ranPart
    · subst given
      cases ranPart
      obtain ⟨name, between'', ranName, ran⟩ := exists_of_bind_eq_ok ran
      obtain ⟨valid, rfl⟩ := isAttributeName_of_attributeName ranName
      have same := isAttributeName_of_restore valid
      cases ran
      exact ⟨.flag true, by rw [same], rfl, by rwa [same] at valid⟩
  | some value =>
    obtain ⟨names, between, ranNames, ran⟩ := exists_of_bind_eq_ok ran
    obtain ⟨name, between', ranName, ran⟩ := exists_of_bind_eq_ok ran
    obtain ⟨name', between'', ranName', ran⟩ := exists_of_bind_eq_ok ran
    obtain ⟨parts, after, ranParts, ran⟩ := exists_of_bind_eq_ok ran
    have given := bare.eq_of_fill ranNames
    split at given
    · subst given
      cases ranName
    · subst given
      cases ranName
      obtain ⟨valid, rfl⟩ := isAttributeName_of_attributeName ranName'
      rw [id_eq] at valid
      have same := isAttributeName_of_restore valid
      have values := bare.eq_of_fill ranParts
      split at values
      · subst values
        cases ran
        exact ⟨.text [], by rw [id_eq, same], rfl, by rwa [same] at valid⟩
      · subst values
        cases ran
        exact ⟨.text _, by rw [id_eq, same], rfl, by rwa [same] at valid⟩

/-- Attributes with names in small letters that are filled are settled, and their names are read
back. -/
theorem Bare.of_fillAttributes (bare : filling.Bare) {written : List WrittenAttribute}
    (small : ∀ source ∈ written, Text.lowercase source.1 = source.1)
    {attributes : Attributes} {session session' : Session σ}
    (ran : filling.fillAttributes written session = .ok attributes session') :
    ReadableKeys attributes ∧ settledAttributes attributes = attributes := by
  obtain ⟨all, between, ranAll, ran⟩ := exists_of_bind_eq_ok ran
  cases ran
  have pairs := exists_of_mapM_eq_ok ranAll
  have each : ∀ entry ∈ all.foldl Dictionary.extend [],
      isAttributeName entry.1 = true ∧ Text.lowercase entry.1 = entry.1 ∧
        entry.2.settled = entry.2 := by
    intro entry member
    rcases Dictionary.mem_foldl_extend member with impossible | ⟨more, within, among⟩
    · cases impossible
    · obtain ⟨source, among', before, after, filled⟩ := exists_of_forall₂ pairs.flip within
      obtain ⟨given, rfl, settled, valid⟩ := bare.exists_of_fillAttribute filled
      obtain rfl := List.mem_singleton.mp among
      exact ⟨valid, small source among', settled⟩
  refine ⟨⟨fun entry member => (each entry member).1, fun entry member => (each entry member).2.1,
    Dictionary.nodup_keys_foldl_extend (by simp [Dictionary.keys]) all⟩, ?_⟩
  rw [settledAttributes]
  conv_rhs => rw [← List.map_id (all.foldl Dictionary.extend [])]
  apply List.map_congr_left
  intro entry member
  exact Prod.ext rfl (each entry member).2.2

/-- A tag that is filled is a valid name and stays as it is. -/
theorem Bare.of_fillTag (bare : filling.Bare) {tag : Text} {attributes : Attributes}
    {children : List Child} {node : Node} {session session' : Session σ}
    (ran : filling.fillTag (some tag) attributes children session = .ok node session') :
    isTagName tag = true ∧ node = { tag, attributes, children } := by
  obtain ⟨parts, between, ranParts, ran⟩ := exists_of_bind_eq_ok ran
  have given := bare.eq_of_fill ranParts
  split at given
  · subst given
    simp only [nameText?, List.mapM_nil] at ran
    cases ran
  · subst given
    have text : nameText? [.text (restore tag)] = some (restore tag) := by simp [nameText?]
    simp only [text] at ran
    split at ran
    · rename_i valid
      have same : restore tag = tag :=
        Skeleton.restore_eq_self (not_mem_sign_of_isTagName valid '$' (by decide))
      rw [same] at ran valid
      cases ran
      exact ⟨valid, rfl⟩
    · cases ran

/-- What a regular part is filled to: one child, a text if the part is one. -/
def Matches (part : Part) (child : Child) : Prop :=
  child.Sourced ∧ ∀ content, part = .text content → ∃ content', child = .text content'

/-- Parts are filled one by one. -/
theorem exists_of_fillParts {parts : List Part}
    (each : ∀ part ∈ parts, ∀ {children : List Child} {session session' : Session σ},
      filling.fillPart part session = .ok children session' →
        ∃ child, children = [child] ∧ Matches part child)
    {children : List Child} {session session' : Session σ}
    (ran : filling.fillParts parts session = .ok children session') :
    List.Forall₂ Matches parts children := by
  induction parts generalizing children session session' with
  | nil =>
    rw [fillParts] at ran
    cases ran
    exact .nil
  | cons part parts inductionHypothesis =>
    rw [fillParts] at ran
    obtain ⟨first, between, ranFirst, ran⟩ := exists_of_bind_eq_ok ran
    obtain ⟨others, after, ranOthers, ran⟩ := exists_of_bind_eq_ok ran
    obtain ⟨child, rfl, holds⟩ := each part (by simp) ranFirst
    cases ran
    exact .cons holds (inductionHypothesis
      (fun other member => each other (List.mem_cons_of_mem part member)) ranOthers)

/-- A regular part is filled to one child that can be read back. -/
theorem Bare.exists_of_fillPart (bare : filling.Bare) {part : Part} (regular : part.Regular)
    {children : List Child} {session session' : Session σ}
    (ran : filling.fillPart part session = .ok children session') :
    ∃ child, children = [child] ∧ Matches part child := by
  induction regular generalizing children session session' with
  | @text content nonempty =>
    rw [fillPart] at ran
    have given := bare.eq_of_fill ran
    rw [if_neg nonempty] at given
    refine ⟨_, given, .text ?_, fun _ _ => ⟨_, rfl⟩⟩
    rwa [Ne, Skeleton.restore_eq_nil_iff]
  | @element tag attributes parts names _ raw inductionHypothesis =>
    rw [fillPart] at ran
    obtain ⟨inside, between, ranInside, ran⟩ := exists_of_bind_eq_ok ran
    obtain ⟨keyed, between', ranKeyed, ran⟩ := exists_of_bind_eq_ok ran
    obtain ⟨node, between'', ranTag, ran⟩ := exists_of_bind_eq_ok ran
    have pairs := exists_of_fillParts inductionHypothesis ranInside
    obtain ⟨readable, settled⟩ := bare.of_fillAttributes names.keys ranKeyed
    obtain ⟨valid, rfl⟩ := bare.of_fillTag ranTag
    cases ran
    refine ⟨_, rfl, .element ⟨valid, names.letter, names.small⟩ readable settled ?_ ?_, by simp⟩
    · intro child member
      obtain ⟨_, _, matched⟩ := exists_of_forall₂ pairs.flip member
      exact matched.1
    · intro among
      rcases raw among with rfl | ⟨content, rfl⟩
      · cases pairs
        exact .inl rfl
      · obtain ⟨child, others, matched, rest, rfl⟩ := List.forall₂_cons_left_iff.mp pairs
        obtain ⟨content', rfl⟩ := matched.2 content rfl
        cases rest
        exact .inr ⟨content', rfl⟩

/-- Parts that are not an element alone are filled to children that are not either. -/
theorem nodeOf_of_matches {parts : List Part} {children : List Child}
    (pairs : List.Forall₂ Matches parts children)
    (grouped : ∀ tag attributes inside, parts ≠ [.element tag attributes inside]) :
    nodeOf children = Node.fragment children := by
  unfold nodeOf
  split
  · obtain ⟨part, others, matched, rest, rfl⟩ := List.forall₂_cons_right_iff.mp pairs
    cases rest
    cases part with
    | text content =>
      obtain ⟨_, impossible⟩ := matched.2 content rfl
      cases impossible
    | element tag attributes inside => exact absurd rfl (grouped tag attributes inside)
  · rfl

end Filling

/-- A text that resolves to anything resolves to children that can be read back, and to at least
one. -/
theorem exists_sourced_of_render {σ : Type} {host : Host σ} {policy : MergePolicy} {chunk : Chunk}
    {node : Node} {session session' : Session σ}
    (accepted : render host [.text chunk] policy session = .ok node session') :
    ∃ children, children ≠ [] ∧ (∀ child ∈ children, child.Sourced) ∧ node = nodeOf children := by
  let filling : Filling σ := { host, items := [.text chunk], policy }
  have bare : filling.Bare := by
    intro index
    cases index <;> rfl
  obtain ⟨parts, nonempty, regular, filled⟩ : ∃ parts, parts ≠ [] ∧
      (∀ part ∈ parts, part.Regular) ∧
      filling.fillTree (Skeleton.treeOf parts) session = .ok node session' := by
    cases built : Skeleton.ofItems [.text chunk] with
    | error error =>
      simp only [render, built] at accepted
      cases accepted
    | ok tree =>
      simp only [render, built] at accepted
      obtain ⟨parts, nonempty, regular, rfl⟩ := Skeleton.regular_of_ofItems built
      exact ⟨parts, nonempty, regular, accepted⟩
  by_cases alone : ∃ tag attributes inside, parts = [.element tag attributes inside]
  · obtain ⟨tag, attributes, inside, rfl⟩ := alone
    have ran : filling.fillPart (.element tag attributes inside) session =
        .ok [node.toChild] session' := by
      have step := filling.fillPart_toPart { tag, attributes, children := inside }
      rw [Skeleton.Tree.toPart] at step
      rw [Skeleton.treeOf] at filled
      rw [step]
      simp only [Bind.bind, EStateM.bind, filled]
      rfl
    obtain ⟨child, same, sourced, _⟩ := bare.exists_of_fillPart (regular _ (by simp)) ran
    obtain rfl := (List.cons.inj same).1
    exact ⟨[node.toChild], by simp, by simpa using sourced, rfl⟩
  · have grouped : ∀ tag attributes inside, parts ≠ [.element tag attributes inside] :=
      fun tag attributes inside same => alone ⟨tag, attributes, inside, same⟩
    have tree : Skeleton.treeOf parts = { children := parts } := by
      unfold Skeleton.treeOf
      split
      · exact absurd rfl (grouped _ _ _)
      · rfl
    rw [tree] at filled
    obtain ⟨children, between, ranParts, filled⟩ := exists_of_bind_eq_ok filled
    obtain ⟨attributes, between', _, filled⟩ := exists_of_bind_eq_ok filled
    cases filled
    have pairs := Filling.exists_of_fillParts
      (fun part member => bare.exists_of_fillPart (regular part member)) ranParts
    refine ⟨children, ?_, ?_, (Filling.nodeOf_of_matches pairs grouped).symm⟩
    · rintro rfl
      cases pairs
      exact nonempty rfl
    · intro child member
      obtain ⟨_, _, matched⟩ := exists_of_forall₂ pairs.flip member
      exact matched.1

end Resolve

end HtmlTemplate
