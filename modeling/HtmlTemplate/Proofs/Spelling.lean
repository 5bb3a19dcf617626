import HtmlTemplate.Proofs.Markers
import HtmlTemplate.Proofs.Parts
import HtmlTemplate.Proofs.Rendered
import Mathlib.Data.List.Forall2

/-!
# The tokens of a rendered tree

A tree is rendered, its dollar signs are protected, and the markup is read again. What the
tokens say is the settled form of the tree: `SpelledBy` is the relation between the two, and
`readsBack_of_readable` shows that it holds for every tree whose names can be read back.
-/

namespace HtmlTemplate

namespace Markup

open Resolve (isTagName isAttributeName)

/-! ## Settled trees -/

/-- An attribute as it comes back from markup: a flag that is set, or a text. -/
def Attribute.settled : Attribute → Attribute
  | .flag _ => .flag true
  | .number n => .text (Decimal.integer n)
  | .text value => .text value
  | .declarations properties => .text (declarationText properties)

/-- Attributes as they come back from markup. -/
def settledAttributes (attributes : Attributes) : Attributes :=
  attributes.map fun (key, value) => (key, value.settled)

/-- A text in front of some children, joined with the text that comes first if one does. An
empty text adds no child. -/
def consText (content : Text) : List Child → List Child
  | .text next :: children => .text (content ++ next) :: children
  | children => if content.isEmpty then children else .text content :: children

mutual

/-- A child as it comes back from markup, in front of other children. -/
def Child.settledOnto (children : List Child) : Child → List Child
  | .text content => consText content children
  | .element tag attributes inside =>
    .element tag (settledAttributes attributes) (settledChildren inside) :: children

/-- Children as they come back from markup: neighbouring texts joined, and no empty ones. -/
def settledChildren : List Child → List Child
  | [] => []
  | child :: rest => child.settledOnto (settledChildren rest)

end

/-- A node as it comes back from markup. -/
def Node.settled (node : Node) : Node :=
  { tag := node.tag
    attributes := settledAttributes node.attributes
    children := settledChildren node.children }

/-- An empty text in front adds nothing. -/
theorem consText_nil_left (children : List Child) : consText [] children = children := by
  rcases children with _ | ⟨_ | _, _⟩ <;> rfl

/-- Two texts in front are one. -/
theorem consText_consText (first second : Text) (children : List Child) :
    consText first (consText second children) = consText (first ++ second) children := by
  by_cases empty : second = []
  · simp [empty, consText_nil_left]
  · rcases children with _ | ⟨_ | _, _⟩ <;> simp [consText, empty]

/-! ## Trees that can be read back -/

/-- A tag that is read back as it is. -/
structure SettledTag (tag : Text) : Prop where
  valid : isTagName tag = true
  letter : beginsWithLetter tag = true
  small : Text.lowercase tag = tag

/-- A tag that is read back as it is, with markup behind it. -/
structure ReadableTag (tag : Text) : Prop where
  valid : isTagName tag = true
  letter : beginsWithLetter tag = true
  small : Text.lowercase tag = tag
  ordinary : tag ∉ rawElements

/-- A tag that is read back is written as it is. -/
theorem ReadableTag.settled {tag : Text} (named : ReadableTag tag) : SettledTag tag :=
  ⟨named.valid, named.letter, named.small⟩

/-- Attributes whose keys are read back as they are. No key has two entries. -/
structure ReadableKeys (attributes : Attributes) : Prop where
  valid : ∀ entry ∈ attributes, isAttributeName entry.1 = true
  small : ∀ entry ∈ attributes, Text.lowercase entry.1 = entry.1
  distinct : (Dictionary.keys attributes).Nodup

/-- A child whose elements are all read back under their names. -/
inductive Child.Readable : Child → Prop where
  | text (content : Text) : Child.Readable (.text content)
  | element {tag : Text} {attributes : Attributes} {children : List Child}
      (named : ReadableTag tag) (keyed : ReadableKeys attributes)
      (inside : ∀ child ∈ children, Child.Readable child) :
      Child.Readable (.element tag attributes children)

/-- A node that is one element, with elements inside that are read back under their
names. -/
def Node.Readable (node : Node) : Prop :=
  node.toChild.Readable

end Markup

namespace Skeleton

open Markup

/-! ## Protected markup -/

/-- Escaping and protecting do not touch each other's characters. -/
theorem protect_escape (text : Text) : protect (escape text) = escape (protect text) := by
  induction text with
  | nil => rfl
  | cons c rest inductionHypothesis =>
    rw [escape_cons, protect_append, inductionHypothesis]
    by_cases dollar : c = '$'
    · subst dollar
      rw [protect_dollar]
      rfl
    · have absent : '$' ∉ escapeChar c := by
        unfold escapeChar
        split_ifs <;> simp [Ne.symm dollar]
      rw [protect_cons dollar, escape_cons, protect_eq_self absent]

/-- No less-than sign stands in a text that is escaped and protected. -/
theorem not_mem_protect_escape (text : Text) : '<' ∉ protect (escape text) := by
  rw [protect_escape]
  exact not_mem_escape (by decide) _

/-- An attribute with its dollar signs protected. -/
def protectAttribute (value : Attribute) : Attribute :=
  match value.value? with
  | none => value
  | some text => .text (protect text)

/-- Attributes with their dollar signs protected. -/
def protectAttributes (attributes : Attributes) : Attributes :=
  attributes.map fun (key, value) => (key, protectAttribute value)

/-- The attributes that the start tag of a protected element is read with. -/
def protectedAttributes (attributes : Attributes) : List WrittenAttribute :=
  attributes.map fun (key, value) => (key, value.value?.map protect)

/-- Protecting an attribute protects its value, if it has one. -/
theorem value?_protectAttribute (value : Attribute) :
    (protectAttribute value).value? = value.value?.map protect := by
  cases valued : value.value? with
  | none => simp only [protectAttribute, valued, Option.map_none]
  | some text =>
    simp only [protectAttribute, valued]
    rfl

/-- A valid name holds nothing to protect. -/
theorem protect_eq_self_of_isAttributeName {key : Text}
    (valid : Resolve.isAttributeName key = true) : protect key = key :=
  protect_eq_self (Resolve.not_mem_of_isAttributeName '$' valid (by decide))

/-- An attribute is protected in its value alone. -/
theorem protect_renderAttribute {key : Text} (valid : Resolve.isAttributeName key = true)
    (value : Attribute) :
    protect (renderAttribute key value) = renderAttribute key (protectAttribute value) := by
  have named := protect_eq_self_of_isAttributeName valid
  have protectedValue := value?_protectAttribute value
  cases valued : value.value? with
  | none =>
    rw [valued] at protectedValue
    rw [renderAttribute_of_none key valued, renderAttribute_of_none key protectedValue, named]
  | some text =>
    rw [valued] at protectedValue
    rw [renderAttribute_of_some key valued, renderAttribute_of_some key protectedValue,
      protect_append, named, protect_cons (by decide), protect_cons (by decide), protect_append,
      protect_escape]
    rfl

/-- Attributes are protected in their values alone. -/
theorem protect_renderAttributes {attributes : Attributes}
    (valid : ∀ entry ∈ attributes, Resolve.isAttributeName entry.1 = true) :
    protect (renderAttributes attributes) = renderAttributes (protectAttributes attributes) := by
  induction attributes with
  | nil => rfl
  | cons entry attributes inductionHypothesis =>
    have first := protect_renderAttribute (valid entry (by simp)) entry.2
    have rest := inductionHypothesis fun other member =>
      valid other (List.mem_cons_of_mem entry member)
    simp only [renderAttributes, protectAttributes] at rest
    simp only [renderAttributes, protectAttributes, List.map_cons, List.flatMap_cons,
      protect_append]
    rw [protect_cons (by decide), first, rest]

/-- A start tag is protected by protecting the values of its attributes. -/
theorem writtenAttributes_protectAttributes {attributes : Attributes}
    (keyed : ReadableKeys attributes) :
    writtenAttributes (protectAttributes attributes) = protectedAttributes attributes := by
  simp only [writtenAttributes, protectAttributes, protectedAttributes, List.map_map]
  apply List.map_congr_left
  intro entry member
  simp only [Function.comp_apply]
  rw [keyed.small entry member, value?_protectAttribute]

/-! ## Trees and tokens -/

/-- Tokens that spell out the protected markup of a settled tree. Texts are not empty, and
names can be read back. -/
inductive SpelledBy : List Child → List Token → Prop where
  | nil : SpelledBy [] []
  | text {content : Text} {children : List Child} {tokens : List Token} (nonempty : content ≠ [])
      (rest : SpelledBy children tokens) :
      SpelledBy (.text content :: children) (.text (protect content) :: tokens)
  | closed {tag : Text} {attributes : Attributes} {children : List Child} {tokens : List Token}
      (named : SettledTag tag) (keyed : ReadableKeys attributes)
      (rest : SpelledBy children tokens) :
      SpelledBy (.element tag (settledAttributes attributes) [] :: children)
        (.startTag tag (protectedAttributes attributes) true :: tokens)
  | element {tag : Text} {attributes : Attributes} {inside children : List Child}
      {tokensInside tokens : List Token} (named : SettledTag tag)
      (keyed : ReadableKeys attributes) (within : SpelledBy inside tokensInside)
      (rest : SpelledBy children tokens) :
      SpelledBy (.element tag (settledAttributes attributes) inside :: children)
        (.startTag tag (protectedAttributes attributes) false ::
          (tokensInside ++ .endTag tag :: tokens))

/-- Some text is read as tokens for settled children, whatever stands behind it. -/
def ReadsAs (text : Text) (children : List Child) : Prop :=
  ∀ atEnd rest, ∃ tokens, SpelledBy children tokens ∧
    scan atEnd none (text ++ rest) = (tokens ++ (scan atEnd none rest).1, (scan atEnd none rest).2)

/-- No text goes on behind the place where a text begins: markup begins, or the input ends. -/
def EndsText (rest : Text) : Prop :=
  rest = [] ∨ ∃ more, rest = '<' :: more

/-- The same for text behind which no text goes on. -/
def ReadsAsInside (text : Text) (children : List Child) : Prop :=
  ∀ atEnd rest, EndsText rest → ∃ tokens, SpelledBy children tokens ∧
    scan atEnd none (text ++ rest) = (tokens ++ (scan atEnd none rest).1, (scan atEnd none rest).2)

/-- Text without a less-than sign is one token in front of such a sign. -/
theorem scan_run {text : Text} (run : '<' ∉ text) (atEnd : Bool) (rest : Text) :
    scan atEnd none (text ++ '<' :: rest) =
      (textToken text ++ (scan atEnd none ('<' :: rest)).1,
        (scan atEnd none ('<' :: rest)).2) := by
  cases text with
  | nil => simp
  | cons c text =>
    have other : c ≠ '<' := fun same => run (by simp [same])
    obtain ⟨taken, left⟩ := takeWhile_append_of_notMem run ('<' :: rest)
    have step : scanStep atEnd none c (text ++ '<' :: rest) =
        .forward (textToken (c :: text)) none ('<' :: rest) := by
      rw [scanStep_text other, ← List.cons_append, textStep, left, taken]
      simp
    rw [List.cons_append, scan_of_forward step]

/-- A character that is escaped has a semicolon behind its ampersand. -/
theorem semicolon_mem_of_escapeChar {c : Char} {front name : Text}
    (parts : escapeChar c = front ++ '&' :: name) : ';' ∈ name := by
  -- An ampersand stands first in what a character is written as, and nowhere else.
  have first : (escapeChar c).tail.all (· ≠ '&') = true := by
    unfold escapeChar
    split_ifs <;> rfl
  have ends : (c ≠ '&' ∧ escapeChar c = [c]) ∨ ';' ∈ (escapeChar c).tail := by
    unfold escapeChar
    split_ifs with sign <;> simp [sign]
  cases front with
  | nil =>
    rw [parts] at ends
    rcases ends with ⟨other, single⟩ | ends
    · exact absurd (List.cons.inj single).1.symm other
    · exact ends
  | cons d front =>
    rw [parts] at first
    simp at first

/-- Every ampersand of a text that is escaped and protected begins a reference that ends. -/
theorem semicolon_mem_of_escape {text front name : Text}
    (parts : protect (escape text) = front ++ '&' :: name) : ';' ∈ name := by
  rw [protect_escape] at parts
  generalize protect text = text at parts
  induction text generalizing front with
  | nil => simp at parts
  | cons c rest inductionHypothesis =>
    rw [escape_cons] at parts
    rcases List.append_eq_append_iff.mp parts with ⟨more, begins, behind⟩ | ⟨more, begins, behind⟩
    · exact inductionHypothesis behind
    · cases more with
      | nil => exact @inductionHypothesis [] (by simpa using behind.symm)
      | cons d more =>
        obtain ⟨rfl, rfl⟩ := List.cons.inj behind
        exact List.mem_append_left _ (semicolon_mem_of_escapeChar begins)

/-- No part of a text that is escaped and protected waits at the end of the input. -/
theorem splitUnfinished_escape (text : Text) :
    splitUnfinished (protect (escape text)) = (protect (escape text), []) := by
  obtain ⟨parts, _⟩ := splitUnfinished_spec (protect (escape text))
  rcases isUnfinished_splitUnfinished (protect (escape text)) with empty | ⟨name, begins, kept⟩
  · rw [empty, List.append_nil] at parts
    exact Prod.ext parts.symm empty
  · rw [begins] at parts
    exact absurd (kept ';' (semicolon_mem_of_escape parts)) (by decide)

/-- Escaped text is one token if no text goes on behind it. -/
theorem scan_escape (content : Text) (atEnd : Bool) {rest : Text} (ends : EndsText rest) :
    scan atEnd none (protect (escape content) ++ rest) =
      (textToken (protect (escape content)) ++ (scan atEnd none rest).1,
        (scan atEnd none rest).2) := by
  have run := not_mem_protect_escape content
  rcases ends with rfl | ⟨more, rfl⟩
  · have all := splitUnfinished_escape content
    rw [List.append_nil, scan_nil, List.append_nil]
    generalize protect (escape content) = text at run all ⊢
    cases text with
    | nil => rw [scan_nil, textToken_nil]
    | cons c text =>
      have other : c ≠ '<' := fun same => run (by simp [same])
      have stop : (c :: text).dropWhile (· ≠ '<') = [] := by
        have behind := (takeWhile_append_of_notMem run []).2
        rwa [List.append_nil] at behind
      apply scan_of_stop
      rw [scanStep_text other, textStep, stop, all]
      cases atEnd <;> rfl
  · exact scan_run run atEnd more

/-- Markup that is read is the first token. -/
theorem scan_markup {rest behind : Text} {token : Token}
    (read : readMarkup rest = .token token behind) (atEnd : Bool) :
    scan atEnd none ('<' :: rest) =
      (token :: (scan atEnd (rawElementAfter token) behind).1,
        (scan atEnd (rawElementAfter token) behind).2) :=
  scan_of_forward (scanStep_token read atEnd)

/-- A start tag is read back. -/
theorem readMarkup_render {tag : Text} {attributes : Attributes} (named : SettledTag tag)
    (keyed : ReadableKeys attributes) (closing : Bool) (rest : Text) :
    readMarkup (tag ++ (renderAttributes (protectAttributes attributes) ++ tagEnd closing rest)) =
      .token (.startTag tag (protectedAttributes attributes) closing) rest := by
  have valid : ∀ entry ∈ protectAttributes attributes,
      Resolve.isAttributeName entry.1 = true := by
    intro entry member
    obtain ⟨original, within, rfl⟩ := List.mem_map.mp member
    exact keyed.valid original within
  have read := readStartTag_render named.valid valid closing rest
  rw [named.small, writtenAttributes_protectAttributes keyed] at read
  obtain ⟨c, more, rfl⟩ : ∃ c more, tag = c :: more := by
    cases tag with
    | nil => cases named.valid
    | cons c more => exact ⟨c, more, rfl⟩
  rw [← read]
  exact readMarkup_letter (by simpa [beginsWithLetter] using named.letter) _

/-- An end tag is read back. -/
theorem readMarkup_endTag {tag : Text} (named : SettledTag tag) (rest : Text) :
    readMarkup ('/' :: (tag ++ '>' :: rest)) = .token (.endTag tag) rest := by
  rw [readMarkup_slash, readEndTag_render named.valid, if_pos named.letter, named.small]

/-- A tag that is written as it is holds nothing to protect. -/
theorem protect_tag {tag : Text} (named : SettledTag tag) : protect tag = tag :=
  protect_eq_self (Resolve.not_mem_sign_of_isTagName named.valid '$' (by decide))

/-- An element with nothing inside is one tag. -/
theorem protect_render_closed {tag : Text} {attributes : Attributes} (named : SettledTag tag)
    (keyed : ReadableKeys attributes) (rest : Text) :
    protect (Child.element tag attributes []).render ++ rest =
      '<' :: (tag ++ (renderAttributes (protectAttributes attributes) ++ tagEnd true rest)) := by
  have nonempty : tag ≠ [] := (Resolve.of_isTagName named.valid).1
  simp only [Child.render, renderElement, List.isEmpty_iff, nonempty, if_false, if_true]
  rw [protect_append, List.cons_append, protect_cons (by decide), protect_append,
    protect_renderAttributes keyed.valid, protect_tag named]
  simp [protect_eq_self, tagEnd]

/-- Any other element is a start tag, what stands inside, and an end tag. -/
theorem protect_render_element {tag : Text} {attributes : Attributes} {children : List Child}
    (named : SettledTag tag) (keyed : ReadableKeys attributes) (filled : children ≠ [])
    (rest : Text) :
    protect (Child.element tag attributes children).render ++ rest =
      '<' :: (tag ++ (renderAttributes (protectAttributes attributes) ++
        tagEnd false (protect (renderChildren children) ++
          '<' :: '/' :: (tag ++ '>' :: rest)))) := by
  have nonempty : tag ≠ [] := (Resolve.of_isTagName named.valid).1
  simp only [Child.render, renderElement, List.isEmpty_iff, nonempty, filled, if_false]
  simp only [List.cons_append, List.append_assoc, protect_append,
    protect_renderAttributes keyed.valid, protect_tag named,
    protect_cons (show '<' ≠ '$' by decide), protect_cons (show '>' ≠ '$' by decide),
    protect_cons (show '/' ≠ '$' by decide), protect_nil, List.nil_append, tagEnd,
    Bool.false_eq_true, if_false]

/-- An element with nothing inside is read back. -/
theorem readsAs_closed {tag : Text} {attributes : Attributes} (named : SettledTag tag)
    (keyed : ReadableKeys attributes) :
    ReadsAs (protect (Child.element tag attributes []).render)
      [.element tag (settledAttributes attributes) []] := by
  intro atEnd rest
  refine ⟨_, .closed named keyed .nil, ?_⟩
  rw [protect_render_closed named keyed, scan_markup (readMarkup_render named keyed true rest)]
  rfl

/-- An element is read back if what stands inside it is. -/
theorem readsAs_element {tag : Text} {attributes : Attributes} {children inside : List Child}
    (named : ReadableTag tag) (keyed : ReadableKeys attributes) (filled : children ≠ [])
    (reads : ReadsAsInside (protect (renderChildren children)) inside) :
    ReadsAs (protect (Child.element tag attributes children).render)
      [.element tag (settledAttributes attributes) inside] := by
  intro atEnd rest
  obtain ⟨tokens, spells, scanned⟩ :=
    reads atEnd ('<' :: '/' :: (tag ++ '>' :: rest)) (.inr ⟨_, rfl⟩)
  refine ⟨_, .element named.settled keyed spells .nil, ?_⟩
  have ordinary :
      rawElementAfter (.startTag tag (protectedAttributes attributes) false) = none := by
    simp [rawElementAfter, named.ordinary]
  rw [protect_render_element named.settled keyed filled,
    scan_markup (readMarkup_render named.settled keyed false _), ordinary, scanned,
    scan_markup (readMarkup_endTag named.settled rest)]
  simp [rawElementAfter]

/-- Children one after the other are spelled by their tokens one after the other. -/
theorem SpelledBy.append {children more : List Child} {tokens tokensMore : List Token}
    (first : SpelledBy children tokens) (second : SpelledBy more tokensMore) :
    SpelledBy (children ++ more) (tokens ++ tokensMore) := by
  induction first with
  | nil => exact second
  | text nonempty _ inductionHypothesis => exact .text nonempty inductionHypothesis
  | closed named keyed _ inductionHypothesis => exact .closed named keyed inductionHypothesis
  | element named keyed within _ _ inductionHypothesis =>
    rw [List.cons_append, List.cons_append, List.append_assoc, List.cons_append]
    exact .element named keyed within inductionHypothesis

/-- What stands inside a spelled element is spelled out too. -/
theorem SpelledBy.inside {tag : Text} {attributes : Attributes} {inside children : List Child}
    {tokens : List Token}
    (spells : SpelledBy (.element tag attributes inside :: children) tokens) :
    ∃ tokensInside, SpelledBy inside tokensInside := by
  cases spells with
  | closed => exact ⟨[], .nil⟩
  | element _ _ within => exact ⟨_, within⟩

/-- The token of a protected text spells out that text, if there is any. -/
theorem spelledBy_textToken (content : Text) :
    SpelledBy (consText content []) (textToken (protect (escape content))) := by
  by_cases empty : content = []
  · subst empty
    exact .nil
  · have decoded : decodeReferences (protect (escape content)) = protect content := by
      rw [protect_escape, decodeReferences_escape]
    have nonempty : protect (escape content) ≠ [] := by
      rw [Ne, ← decodeReferences_eq_nil_iff, decoded, protect_eq_nil_iff]
      exact empty
    rw [textToken_of_ne_nil nonempty, decoded]
    simpa [consText, empty] using SpelledBy.text empty .nil

/-- An element is written with a less-than sign first. -/
theorem exists_render_element {tag : Text} (named : SettledTag tag) (attributes : Attributes)
    (children : List Child) :
    ∃ more, protect (Child.element tag attributes children).render = '<' :: more := by
  have nonempty : tag ≠ [] := (Resolve.of_isTagName named.valid).1
  simp only [Child.render, renderElement, List.isEmpty_iff, nonempty, if_false]
  split <;> simp only [List.cons_append] <;> rw [protect_cons (by decide)] <;> exact ⟨_, rfl⟩

/-- What is known of a child while a tree is gone through from the inside: an element is read
back as an element, and a text waits for its neighbours. -/
inductive ReadsBackAs : Child → Child → Prop where
  | text (content : Text) : ReadsBackAs (.text content) (.text content)
  | element {tag : Text} {attributes : Attributes} {children inside : List Child}
      (named : SettledTag tag)
      (reads : ReadsAs (protect (Child.element tag attributes children).render)
        [.element tag (settledAttributes attributes) (settledChildren inside)]) :
      ReadsBackAs (.element tag attributes children) (.element tag attributes inside)

/-- Children are read back if the elements among them are. The induction carries the text
that has been gathered in front. -/
theorem readsAsInside_children {children results : List Child}
    (pairs : List.Forall₂ ReadsBackAs children results) (front : Text) :
    ReadsAsInside (protect (escape front ++ renderChildren children))
      (consText front (settledChildren results)) := by
  induction pairs generalizing front with
  | nil =>
    intro atEnd rest ends
    refine ⟨_, spelledBy_textToken front, ?_⟩
    rw [renderChildren, List.append_nil, scan_escape front atEnd ends]
  | @cons child result children results pair _ later =>
    cases pair with
    | text content =>
      have joined := later (front ++ content)
      rw [escape_append, List.append_assoc, ← consText_consText] at joined
      exact joined
    | @element tag attributes children' inside named reads =>
      intro atEnd rest ends
      obtain ⟨tokens, spells, scanned⟩ := later [] atEnd rest ends
      rw [consText_nil_left] at spells
      rw [escape_nil, List.nil_append] at scanned
      obtain ⟨first, spellsFirst, scannedFirst⟩ :=
        reads atEnd (protect (renderChildren children) ++ rest)
      obtain ⟨more, begins⟩ := exists_render_element named attributes children'
      have apart : consText front (.element tag (settledAttributes attributes)
            (settledChildren inside) :: settledChildren results) =
          consText front [] ++ ([.element tag (settledAttributes attributes)
            (settledChildren inside)] ++ settledChildren results) := by
        by_cases empty : front = [] <;> simp [consText, empty]
      refine ⟨textToken (protect (escape front)) ++ (first ++ tokens), ?_, ?_⟩
      · rw [settledChildren, Child.settledOnto, apart]
        exact (spelledBy_textToken front).append (spellsFirst.append spells)
      · rw [begins, List.cons_append] at scannedFirst
        rw [renderChildren, protect_append, protect_append, begins, List.append_assoc,
          List.append_assoc, List.cons_append, scan_run (not_mem_protect_escape front),
          scannedFirst, scanned]
        simp

/-- The same with nothing in front. -/
theorem readsAsInside_of_forall₂ {children results : List Child}
    (pairs : List.Forall₂ ReadsBackAs children results) :
    ReadsAsInside (protect (renderChildren children)) (settledChildren results) := by
  have reads := readsAsInside_children pairs []
  rwa [escape_nil, List.nil_append, consText_nil_left] at reads

/-- What is known of a readable child. -/
def ReadsBack : Child → Prop
  | .text _ => True
  | .element tag attributes children =>
    ReadsAs (protect (Child.element tag attributes children).render)
      [.element tag (settledAttributes attributes) (settledChildren children)]

/-- A readable child is read back. -/
theorem readsBack_of_readable {child : Child} (readable : child.Readable) : ReadsBack child := by
  induction readable with
  | text content => trivial
  | @element tag attributes children named keyed inside inductionHypothesis =>
    by_cases filled : children = []
    · subst filled
      exact readsAs_closed named.settled keyed
    have pairs : List.Forall₂ ReadsBackAs children children := by
      rw [List.forall₂_same]
      intro child member
      have back := inductionHypothesis child member
      cases inside child member with
      | text content => exact .text content
      | element named _ _ => exact .element named.settled back
    exact readsAs_element named keyed filled (readsAsInside_of_forall₂ pairs)

end Skeleton

end HtmlTemplate
