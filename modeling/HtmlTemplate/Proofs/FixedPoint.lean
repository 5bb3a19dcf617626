import HtmlTemplate.Proofs.Brackets
import HtmlTemplate.Proofs.SourceTrees

/-!
# Markup that is resolved and rendered again

What one text resolves to is rendered, and the markup is resolved once more. This always
succeeds, and gives the same tree up to the texts of raw elements: rendering escapes them, and
reading takes them as they stand. So the markup stays the same exactly if no such text holds a
character that is written as a reference (`render_rendered_eq_iff`).
-/

namespace HtmlTemplate

namespace Markup

/-! ## Texts of raw elements -/

/-- A text in which every character stands for itself in markup. -/
def IsPlain (text : Text) : Prop :=
  ∀ c ∈ text, c ∉ ['&', '<', '>', '\"', '\'']

instance (text : Text) : Decidable (IsPlain text) :=
  inferInstanceAs (Decidable (∀ c ∈ text, c ∉ ['&', '<', '>', '\"', '\'']))

/-- The text that a child is, if it is one. -/
def Child.text? : Child → Option Text
  | .text content => some content
  | .element _ _ _ => none

/-- Whether an element has raw text is found in the list of those that do. -/
theorem contains_rawElements {tag : Text} :
    rawElements.contains tag = true ↔ tag ∈ rawElements :=
  List.contains_iff_mem

instance decidableRaw (tag : Text) : Decidable (tag ∈ rawElements) :=
  decidable_of_iff (rawElements.contains tag = true) contains_rawElements

mutual

/-- The texts that stand directly in a raw element, in a child or below it. -/
def Child.rawTexts : Child → List Text
  | .text _ => []
  | .element tag _ children =>
    (if tag ∈ rawElements then children.filterMap Child.text? else []) ++ rawTextsOf children

/-- The texts that stand directly in a raw element, in some children or below them. -/
def rawTextsOf : List Child → List Text
  | [] => []
  | child :: rest => child.rawTexts ++ rawTextsOf rest

end

/-- The texts that stand directly in a raw element of a node. -/
def Node.rawTexts (node : Node) : List Text :=
  node.toChild.rawTexts

/-- A child with its text escaped, if it is a text. -/
def Child.escaped : Child → Child
  | .text content => .text (escape content)
  | .element tag attributes children => .element tag attributes children

mutual

/-- A child with the texts of raw elements escaped. -/
def Child.rawEscaped : Child → Child
  | .text content => .text content
  | .element tag attributes children =>
    .element tag attributes
      (if tag ∈ rawElements then children.map Child.escaped else rawEscapedOf children)

/-- Children with the texts of raw elements escaped. -/
def rawEscapedOf : List Child → List Child
  | [] => []
  | child :: rest => child.rawEscaped :: rawEscapedOf rest

end

/-- Raw texts are escaped in each child by itself. -/
theorem rawEscapedOf_eq_map (children : List Child) :
    rawEscapedOf children = children.map Child.rawEscaped := by
  induction children with
  | nil => rfl
  | cons child children inductionHypothesis =>
    rw [rawEscapedOf, inductionHypothesis, List.map_cons]

/-! ## Escaping makes longer -/

/-- A character is written as at least one, and as one only if it has no meaning in markup. -/
theorem length_escapeChar (c : Char) :
    1 ≤ (escapeChar c).length ∧
      ((escapeChar c).length ≤ 1 → c ∉ ['&', '<', '>', '\"', '\'']) := by
  unfold escapeChar
  split_ifs <;> simp_all

/-- A text gets no shorter when it is escaped, and stays as long only if it is plain. -/
theorem length_escape (text : Text) :
    text.length ≤ (escape text).length ∧ ((escape text).length ≤ text.length → IsPlain text) := by
  induction text with
  | nil => simp [IsPlain]
  | cons c rest inductionHypothesis =>
    have first := length_escapeChar c
    rw [escape_cons, List.length_append, List.length_cons]
    refine ⟨by omega, fun short => ?_⟩
    exact List.forall_mem_cons.mpr ⟨first.2 (by omega), inductionHypothesis.2 (by omega)⟩

/-- A plain text is written as it is. -/
theorem IsPlain.escape_eq {text : Text} (plain : IsPlain text) : escape text = text :=
  escape_eq_self fun c member => escapeChar_of_not_mem (plain c member)

/-- Escaping leaves no text plain that is not so already. -/
theorem isPlain_of_escape {text : Text} (plain : IsPlain (escape text)) : IsPlain text := by
  intro c member special
  have written : '&' ∈ escapeChar c := by
    simp only [List.mem_cons, List.not_mem_nil, or_false] at special
    rcases special with rfl | rfl | rfl | rfl | rfl <;> decide
  exact plain '&' (List.mem_flatMap.mpr ⟨c, member, written⟩) (by decide)

/-- The texts that are written as they are, are the plain ones. -/
theorem escape_eq_iff {text : Text} : escape text = text ↔ IsPlain text :=
  ⟨fun same => (length_escape text).2 (Nat.le_of_eq (congrArg List.length same)),
    IsPlain.escape_eq⟩

/-- Escaping once more changes what holds something that was escaped. -/
theorem escape_escape_eq_iff {text : Text} : escape (escape text) = escape text ↔ IsPlain text := by
  rw [escape_eq_iff]
  refine ⟨isPlain_of_escape, fun plain => ?_⟩
  rwa [plain.escape_eq]

/-- What an element with something inside is written with around that. -/
theorem exists_renderElement (tag : Text) (attributes : Attributes) :
    ∃ front back, ∀ inner, renderElement tag attributes false inner = front ++ inner ++ back := by
  by_cases empty : tag.isEmpty
  · exact ⟨[], [], fun inner => by simp [renderElement, empty]⟩
  · refine ⟨'<' :: tag ++ renderAttributes attributes ++ ['>'], '<' :: '/' :: tag ++ ['>'], ?_⟩
    intro inner
    simp [renderElement, empty]

/-- The markup of some children with the texts of raw elements escaped, compared with that of
the children as they are. -/
structure Grows (children : List Child) : Prop where
  le : (renderChildren children).length ≤ (renderChildren (rawEscapedOf children)).length
  plain : (renderChildren (rawEscapedOf children)).length ≤ (renderChildren children).length →
    ∀ text ∈ rawTextsOf children, IsPlain text

/-- Children grow together if each of them grows. -/
theorem Grows.of_forall {children : List Child} (each : ∀ child ∈ children, Grows [child]) :
    Grows children := by
  induction children with
  | nil => exact ⟨Nat.le_refl 0, by simp [rawTextsOf]⟩
  | cons child children inductionHypothesis =>
    have first := each child (by simp)
    have rest := inductionHypothesis fun other member =>
      each other (List.mem_cons_of_mem child member)
    have le := first.le
    have le' := rest.le
    have plain := first.plain
    simp only [renderChildren, rawEscapedOf, rawTextsOf, List.append_nil] at le plain
    refine ⟨?_, ?_⟩
    · simp only [renderChildren, rawEscapedOf, List.length_append]
      omega
    · simp only [renderChildren, rawEscapedOf, rawTextsOf, List.length_append]
      intro short text member
      rcases List.mem_append.mp member with member | member
      · exact plain (by omega) text member
      · exact rest.plain (by omega) text member

/-- Only the texts of raw elements can make the markup longer. -/
theorem Child.Sourced.grows {child : Child} (sourced : child.Sourced) : Grows [child] := by
  induction sourced with
  | text _ => exact ⟨Nat.le_refl _, by simp [rawTextsOf, Child.rawTexts]⟩
  | @element tag attributes children _ _ _ _ raw inductionHypothesis =>
    have inner := Grows.of_forall inductionHypothesis
    obtain ⟨front, back, around⟩ := exists_renderElement tag attributes
    rcases children with _ | ⟨child, rest⟩
    · by_cases among : tag ∈ rawElements <;>
        exact ⟨by simp [rawEscapedOf, Child.rawEscaped, among],
          by simp [rawTextsOf, Child.rawTexts]⟩
    by_cases among : tag ∈ rawElements
    · obtain ⟨content, rfl, rfl⟩ : ∃ content, child = .text content ∧ rest = [] := by
        simpa using raw among
      have long := length_escape (escape content)
      refine ⟨?_, ?_⟩
      · simp [renderChildren, rawEscapedOf, Child.rawEscaped, Child.escaped, among, Child.render,
          around, long.1]
      · simp only [renderChildren, rawEscapedOf, Child.rawEscaped, Child.escaped, among,
          Child.render, around, List.length_append, if_true, List.map_cons, List.map_nil,
          List.isEmpty_cons, List.append_nil, rawTextsOf, Child.rawTexts, Child.text?,
          List.filterMap_cons, List.filterMap_nil, List.mem_singleton, forall_eq]
        exact fun short => isPlain_of_escape (long.2 (by omega))
    · obtain ⟨le, plain⟩ := inner
      refine ⟨?_, ?_⟩
      · simp only [renderChildren, rawEscapedOf, Child.rawEscaped, among, Child.render, around,
          List.length_append, if_false, List.isEmpty_cons, List.append_nil] at le ⊢
        omega
      · simp only [renderChildren, rawEscapedOf, Child.rawEscaped, among, Child.render, around,
          List.length_append, if_false, List.isEmpty_cons, List.append_nil, rawTextsOf,
          Child.rawTexts, List.nil_append] at plain ⊢
        exact fun short => plain (by omega)

mutual

/-- A child stays as it is if the texts of raw elements are plain. -/
theorem Child.rawEscaped_eq_self :
    ∀ child : Child, (∀ text ∈ child.rawTexts, IsPlain text) → child.rawEscaped = child
  | .text _, _ => rfl
  | .element tag attributes children, plain => by
    simp only [Child.rawTexts, List.forall_mem_append] at plain
    have inner := rawEscapedOf_eq_self children plain.2
    rw [Child.rawEscaped, inner]
    split
    · rename_i among
      have texts := plain.1
      rw [if_pos among] at texts
      have each : ∀ child ∈ children, child.escaped = child := by
        intro child member
        cases child with
        | text content =>
          rw [Child.escaped, (texts content (List.mem_filterMap.mpr ⟨_, member, rfl⟩)).escape_eq]
        | element tag attributes inside => rfl
      rw [List.map_congr_left each, List.map_id'']
      exact fun _ => rfl
    · rfl

/-- Children whose raw texts are plain stay as they are. -/
theorem rawEscapedOf_eq_self :
    ∀ children : List Child, (∀ text ∈ rawTextsOf children, IsPlain text) →
      rawEscapedOf children = children
  | [], _ => rfl
  | child :: rest, plain => by
    simp only [rawTextsOf, List.forall_mem_append] at plain
    rw [rawEscapedOf, Child.rawEscaped_eq_self child plain.1, rawEscapedOf_eq_self rest plain.2]

end

/-! ## Settled markup -/

/-- Children are written the same as the node made of them. -/
theorem render_nodeOf (children : List Child) :
    (nodeOf children).render = renderChildren children := by
  rcases children with _ | ⟨_ | _, _ | ⟨_, _⟩⟩ <;>
    simp [nodeOf, Node.fragment, Node.render, Node.toChild, Child.render, renderElement,
      renderChildren]

/-- Children have the raw texts of the node made of them. -/
theorem rawTexts_nodeOf (children : List Child) :
    (nodeOf children).rawTexts = rawTextsOf children := by
  have outside : ([] : Text) ∉ rawElements := by decide
  rcases children with _ | ⟨_ | _, _ | ⟨_, _⟩⟩ <;>
    simp [nodeOf, Node.fragment, Node.rawTexts, Node.toChild, Child.rawTexts, rawTextsOf, outside]

/-- A text in front of some children is written in front of them. -/
theorem renderChildren_consText (content : Text) (children : List Child) :
    renderChildren (consText content children) = escape content ++ renderChildren children := by
  by_cases empty : content = []
  · rw [empty, consText_nil_left]
    rfl
  · rcases children with _ | ⟨_ | _, _⟩ <;> simp [consText, empty, renderChildren, Child.render]

/-- Children of which no text is empty do not settle to nothing. -/
theorem settledChildren_eq_nil_iff {children : List Child}
    (visible : .text [] ∉ children) : settledChildren children = [] ↔ children = [] := by
  cases children with
  | nil => simp [settledChildren]
  | cons child rest =>
    simp only [List.mem_cons, not_or] at visible
    simp only [settledChildren, reduceCtorEq, iff_false]
    cases child with
    | text content =>
      have nonempty : content ≠ [] := fun empty => visible.1 (by rw [empty])
      rcases settledChildren rest with _ | ⟨_ | _, _⟩ <;>
        simp [Child.settledOnto, consText, nonempty]
    | element tag attributes inside => simp [Child.settledOnto]

/-- The markup of a child stays the same when the child is settled, in front of anything. -/
def SettlesInPlace (child : Child) : Prop :=
  ∀ more, renderChildren (child.settledOnto more) = child.render ++ renderChildren more

/-- Settled children are written as those that they are made of. -/
theorem renderChildren_settledChildren {children : List Child}
    (each : ∀ child ∈ children, SettlesInPlace child) :
    renderChildren (settledChildren children) = renderChildren children := by
  induction children with
  | nil => rfl
  | cons child children inductionHypothesis =>
    rw [settledChildren, each child (by simp), renderChildren,
      inductionHypothesis fun other member => each other (List.mem_cons_of_mem child member)]

/-- A text settles in its place. -/
theorem settlesInPlace_text (content : Text) : SettlesInPlace (.text content) := fun more =>
  renderChildren_consText content more

/-- An element settles in place if its attributes are settled and what stands inside does. -/
theorem settlesInPlace_element {tag : Text} {attributes : Attributes} {children : List Child}
    (settled : settledAttributes attributes = attributes) (visible : .text [] ∉ children)
    (each : ∀ child ∈ children, SettlesInPlace child) :
    SettlesInPlace (.element tag attributes children) := by
  intro more
  have empty : (settledChildren children).isEmpty = children.isEmpty := by
    rw [Bool.eq_iff_iff, List.isEmpty_iff, List.isEmpty_iff, settledChildren_eq_nil_iff visible]
  rw [Child.settledOnto, renderChildren, Child.render, Child.render, settled, empty,
    renderChildren_settledChildren each]

/-- What stands inside a raw element that one text resolves to. -/
theorem Child.Sourced.inside_raw {tag : Text} {attributes : Attributes} {children : List Child}
    (sourced : (Child.element tag attributes children).Sourced) (among : tag ∈ rawElements) :
    children = [] ∨ ∃ content, content ≠ [] ∧ children = [.text content] := by
  cases sourced with
  | element _ _ _ inside raw =>
    rcases raw among with empty | ⟨content, rfl⟩
    · exact .inl empty
    · cases inside (.text content) (by simp) with
      | text nonempty => exact .inr ⟨content, nonempty, rfl⟩

/-- Children that settle in place do so together, and they do not settle to nothing. -/
theorem settle_rawEscapedOf {children : List Child}
    (each : ∀ child ∈ children, SettlesInPlace child.rawEscaped ∧ child.rawEscaped ≠ .text []) :
    .text [] ∉ rawEscapedOf children ∧ ∀ child ∈ rawEscapedOf children, SettlesInPlace child := by
  rw [rawEscapedOf_eq_map]
  constructor
  · intro member
    obtain ⟨child, among, empty⟩ := List.mem_map.mp member
    exact (each child among).2 empty
  · intro other member
    obtain ⟨child, among, rfl⟩ := List.mem_map.mp member
    exact (each child among).1

/-- With the texts of raw elements escaped, a child that one text resolves to settles in place
and does not become an empty text. -/
theorem Child.Sourced.settlesInPlace {child : Child} (sourced : child.Sourced) :
    SettlesInPlace child.rawEscaped ∧ child.rawEscaped ≠ .text [] := by
  induction sourced with
  | @text content nonempty =>
    refine ⟨settlesInPlace_text content, ?_⟩
    simpa [Child.rawEscaped] using nonempty
  | @element tag attributes children named keyed settled inside raw inductionHypothesis =>
    refine ⟨?_, by simp [Child.rawEscaped]⟩
    rw [Child.rawEscaped]
    split
    · rename_i among
      rcases (Child.Sourced.element named keyed settled inside raw).inside_raw among with
        rfl | ⟨content, nonempty, rfl⟩
      · exact settlesInPlace_element settled (by simp) (by simp)
      · refine settlesInPlace_element settled ?_ ?_
        · simpa [Child.escaped, escape_eq_nil_iff] using nonempty.symm
        · simpa [Child.escaped] using settlesInPlace_text (escape content)
    · obtain ⟨visible, each⟩ := settle_rawEscapedOf inductionHypothesis
      exact settlesInPlace_element settled visible each

end Markup

namespace Skeleton

open Markup

/-! ## Reading again -/

/-- A raw element is read back with its text as it is written. -/
theorem readsAs_raw {tag : Text} {attributes : Attributes} (named : SettledTag tag)
    (keyed : ReadableKeys attributes) (among : tag ∈ rawElements) {content : Text}
    (nonempty : content ≠ []) :
    ReadsAs (protect (Child.element tag attributes [.text content]).render)
      [.element tag (settledAttributes attributes) [.text (escape content)]] := by
  have plain : ∀ element ∈ rawElements, '>' ∉ element ∧ element.map Text.asciiLower = element := by
    decide
  have visible : escape content ≠ [] := by simpa [escape_eq_nil_iff] using nonempty
  intro atEnd rest
  refine ⟨_, .element named keyed (.text visible .nil) .nil, ?_⟩
  have opens : OpensEndTag tag ('<' :: '/' :: (tag ++ '>' :: rest)) := by
    rw [opensEndTag_iff (plain tag among).1, List.take_length, (plain tag among).2]
  have cut := cutAtEndTag?_of_run (not_mem_protect_escape content) opens
  have raw : rawElementAfter (.startTag tag (protectedAttributes attributes) false) = some tag :=
    if_pos among
  have inner : protect (renderChildren [.text content]) = protect (escape content) := by
    simp [renderChildren, Child.render]
  rw [protect_render_element named keyed (by simp),
    scan_markup (readMarkup_render named keyed false _), raw, inner]
  obtain ⟨c, more, begins⟩ : ∃ c more, protect (escape content) = c :: more :=
    List.exists_cons_of_ne_nil (by simpa [protect_eq_nil_iff] using visible)
  rw [begins, List.cons_append] at cut ⊢
  rw [scan_of_forward (scanStep_raw cut atEnd), scan_markup (readMarkup_endTag named rest)]
  simp [rawTextToken, rawElementAfter]

/-- Children are read back with their raw texts escaped, if each of them is. -/
theorem readsAsInside_rawEscapedOf {children : List Child}
    (each : ∀ child ∈ children, ReadsBackAs child child.rawEscaped) :
    ReadsAsInside (protect (renderChildren children))
      (settledChildren (rawEscapedOf children)) := by
  apply readsAsInside_of_forall₂
  rw [rawEscapedOf_eq_map, List.forall₂_map_right_iff, List.forall₂_same]
  exact each

/-- A child that one text resolves to is read back, with the texts of raw elements escaped. -/
theorem readsBackAs_of_sourced {child : Child} (sourced : child.Sourced) :
    ReadsBackAs child child.rawEscaped := by
  induction sourced with
  | text nonempty => exact .text _
  | @element tag attributes children named keyed settled inside raw inductionHypothesis =>
    rw [Child.rawEscaped]
    refine .element named ?_
    by_cases filled : children = []
    · subst filled
      have nothing :
          (if tag ∈ rawElements then [].map Child.escaped else rawEscapedOf []) = [] := by
        split <;> rfl
      rw [nothing]
      exact readsAs_closed named keyed
    split
    · rename_i among
      have sourced := Child.Sourced.element named keyed settled inside raw
      obtain ⟨content, nonempty, rfl⟩ := (sourced.inside_raw among).resolve_left filled
      have alone : settledChildren ([.text content].map Child.escaped) =
          [.text (escape content)] := by
        have visible : escape content ≠ [] := by simpa [escape_eq_nil_iff] using nonempty
        simp [settledChildren, Child.settledOnto, Child.escaped, consText, visible]
      rw [alone]
      exact readsAs_raw named keyed among nonempty
    · rename_i ordinary
      exact readsAs_element ⟨named.valid, named.letter, named.small, ordinary⟩ keyed filled
        (readsAsInside_rawEscapedOf inductionHypothesis)

end Skeleton

namespace Resolve

open Markup

variable {σ : Type} {host : Host σ} {policy : MergePolicy} {session session' : Session σ}

/-- The markup of whatever a text resolves to resolves again, and is rendered to the same markup
exactly if no text in a raw element holds a character that is written as a reference. -/
theorem render_rendered_eq_iff {chunk : Chunk} {node : Node}
    (accepted : render host [.text chunk] policy session = .ok node session') :
    ∃ again, Gives (render host [.text (.ofText node.render)] policy) again ∧
      (again.render = node.render ↔ ∀ text ∈ node.rawTexts, IsPlain text) := by
  obtain ⟨children, nonempty, sourced, rfl⟩ := exists_sourced_of_render accepted
  have reads := Skeleton.readsAsInside_rawEscapedOf fun child member =>
    Skeleton.readsBackAs_of_sourced (sourced child member)
  obtain ⟨visible, each⟩ := settle_rawEscapedOf fun child member =>
    (sourced child member).settlesInPlace
  have same : renderChildren (settledChildren (rawEscapedOf children)) =
      renderChildren (rawEscapedOf children) := renderChildren_settledChildren each
  have grows : Grows children := .of_forall fun child member => (sourced child member).grows
  refine ⟨nodeOf (settledChildren (rawEscapedOf children)), ?_, ?_⟩
  · refine render_of_reads host policy ?_ ?_
    · rw [Ne, settledChildren_eq_nil_iff visible, rawEscapedOf_eq_map, List.map_eq_nil_iff]
      exact nonempty
    · rw [Chunk.ofText, render_nodeOf]
      exact reads
  · rw [render_nodeOf, render_nodeOf, same, rawTexts_nodeOf]
    constructor
    · intro equal
      exact grows.plain (Nat.le_of_eq (congrArg List.length equal))
    · intro plain
      rw [rawEscapedOf_eq_self children plain]

/-- Comments, references, mixed case, attributes without quotes and a script: all of it comes to
the same markup again, because nothing in the script is written as a reference. -/
theorem render_rendered_plain_script :
    ∃ node session' again,
      render Host.none
          [.text (.ofText "<P A=a a=\"b$&quot;\">1 &lt; 2<!-- - --><br/><script>f(1);</script></p>".toList)]
          .nodeWins { state := () } = .ok node session' ∧
      Gives (render Host.none [.text (.ofText node.render)] .nodeWins) again ∧
        (again.render = node.render ↔ ∀ text ∈ node.rawTexts, IsPlain text) := by
  have run : seen (render Host.none
      [.text (.ofText "<P A=a a=\"b$&quot;\">1 &lt; 2<!-- - --><br/><script>f(1);</script></p>".toList)]
      .nodeWins { state := () }) =
        (.ok "<p a=\"b$&quot;\">1 &lt; 2<br/><script>f(1);</script></p>".toList, []) := by
    decide +kernel
  obtain ⟨node, session', accepted, _⟩ := exists_of_seen_ok run
  obtain ⟨again, gives, same⟩ := render_rendered_eq_iff accepted
  exact ⟨node, session', again, accepted, gives, same⟩

/-- A less-than sign in a script is written as a reference, which a script takes as it stands. -/
theorem render_rendered_ne_script :
    ∃ node again,
      renderPlain [.text (.ofText "<script>a<b</script>".toList)] .nodeWins = .ok node ∧
        renderPlain [.text (.ofText node.render)] .nodeWins = .ok again ∧
        again.render ≠ node.render := by
  have first : (renderPlain [.text (.ofText "<script>a<b</script>".toList)] .nodeWins).map
      Node.render = .ok "<script>a&lt;b</script>".toList := by decide +kernel
  have second : (renderPlain [.text (.ofText "<script>a&lt;b</script>".toList)] .nodeWins).map
      Node.render = .ok "<script>a&amp;lt;b</script>".toList := by decide +kernel
  obtain ⟨node, ran, rendered⟩ := exists_of_map_eq_ok first
  obtain ⟨again, ranAgain, renderedAgain⟩ := exists_of_map_eq_ok second
  refine ⟨node, again, ran, by rw [rendered, ranAgain], ?_⟩
  rw [rendered, renderedAgain]
  decide

end Resolve

end HtmlTemplate
