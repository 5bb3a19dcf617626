import HtmlTemplate.Proofs.Parts
import HtmlTemplate.Proofs.Rendered

/-!
# The shape of rendered trees

The shape of some tokens is what is left of them without texts and without the values of
attributes. The shape of a rendered tree is decided by its brackets alone, that is by the tags
and the keys that it is written with (`Node.shape_render`), whatever its texts and values hold.
-/

namespace HtmlTemplate.Markup

open Resolve (isTagName isAttributeName)

/-! ## Shapes -/

/-- A token with the values of its attributes made empty. -/
def Token.blank : Token → Token
  | .startTag name attributes closing =>
    .startTag name (attributes.map fun (key, value) => (key, value.map fun _ => [])) closing
  | token => token

/-- The tokens that are no texts, with the values of their attributes made empty. -/
def shape (tokens : List Token) : List Token :=
  (tokens.filter (!·.isText)).map Token.blank

theorem shape_append (tokens more : List Token) :
    shape (tokens ++ more) = shape tokens ++ shape more := by
  simp [shape]

theorem shape_textToken (text : Text) : shape (textToken text) = [] := by
  unfold textToken
  split <;> rfl

theorem shape_rawTextToken (text : Text) : shape (rawTextToken text) = [] := by
  unfold rawTextToken
  split <;> rfl

/-- Joining texts does not change a shape. -/
theorem shape_joinTexts (tokens : List Token) : shape (joinTexts tokens) = shape tokens := by
  have joined (content : Text) (tokens : List Token) :
      shape (joinText content tokens) = shape tokens := by
    rcases tokens with _ | ⟨_ | _ | _ | _, _⟩ <;> rfl
  induction tokens with
  | nil => rfl
  | cons token tokens inductionHypothesis =>
    cases token with
    | text content => exact (joined content _).trans inductionHypothesis
    | _ => exact congrArg (_ :: ·) inductionHypothesis

theorem shape_tokenize_singleton (text : Text) :
    shape (tokenize [text]) = shape (tokensOf none text) := by
  rw [← shape_joinTexts, joinTexts_tokenize_singleton, shape_joinTexts]

/-! ## Text that leaves no trace -/

/-- Inside a raw element only what stands from its end tag on has a shape. -/
theorem shape_tokensOf_raw (element text : Text) :
    shape (tokensOf (some element) text) =
      match cutAtEndTag? element text with
      | some (_, found) => shape (tokensOf none found)
      | none => [] := by
  cases text with
  | nil => simp [cutAtEndTag?, shape]
  | cons c rest =>
    cases cut : cutAtEndTag? element (c :: rest) with
    | none =>
      rw [tokensOf_of_stop (scanStep_raw_unended cut)]
      rfl
    | some parts =>
      obtain ⟨before, found⟩ := parts
      rw [tokensOf_of_forward (scanStep_raw cut true), shape_append, shape_rawTextToken,
        List.nil_append]

/-- A character that does not begin the end tag is passed over in a raw element. -/
theorem shape_tokensOf_raw_cons {element : Text} {c : Char} {rest : Text}
    (other : ¬ OpensEndTag element (c :: rest)) :
    shape (tokensOf (some element) (c :: rest)) = shape (tokensOf (some element) rest) := by
  have cut : cutAtEndTag? element (c :: rest) =
      (cutAtEndTag? element rest).map (Prod.map (c :: ·) id) := by
    rw [cutAtEndTag?]
    exact if_neg other
  rw [shape_tokensOf_raw, shape_tokensOf_raw, cut]
  cases cutAtEndTag? element rest <;> rfl

/-- Where the end tag begins, the raw element ends. -/
theorem shape_tokensOf_raw_endTag {element text : Text} (opens : OpensEndTag element text) :
    shape (tokensOf (some element) text) = shape (tokensOf none text) := by
  cases text with
  | nil => cases opens
  | cons c rest =>
    have cut : cutAtEndTag? element (c :: rest) = some ([], c :: rest) := by
      rw [cutAtEndTag?]
      exact if_pos opens
    rw [shape_tokensOf_raw, cut]

theorem not_opensEndTag_of_slash {element : Text} {c d : Char} {rest : Text} (other : d ≠ '/') :
    ¬ OpensEndTag element (c :: d :: rest) := by
  intro opens
  have second : Text.asciiLower d = '/' := by
    simp only [OpensEndTag, List.length_cons, List.take_succ_cons, List.map_cons] at opens
    exact (List.cons.inj (List.cons.inj opens).2).1
  exact other (Text.eq_of_asciiLower second (by decide))

/-- Text without less-than signs has no shape, in a raw element or outside. -/
theorem shape_tokensOf_run {run : Text} (single : '<' ∉ run) (rawElement : Option Text)
    (rest : Text) :
    shape (tokensOf rawElement (run ++ rest)) = shape (tokensOf rawElement rest) := by
  cases rawElement with
  | none =>
    obtain ⟨taken, left⟩ := takeWhile_append_of_notMem single rest
    rw [tokensOf_run (run ++ rest), tokensOf_run rest, taken, left, shape_append, shape_append,
      shape_textToken, shape_textToken]
  | some element =>
    induction run with
    | nil => rfl
    | cons c run inductionHypothesis =>
      simp only [List.mem_cons, not_or] at single
      rw [List.cons_append, shape_tokensOf_raw_cons (not_opensEndTag_of_ne (Ne.symm single.1)),
        inductionHypothesis single.2]

/-! ## Brackets -/

/-- A tag that a tree is rendered with. -/
inductive Bracket where
  /-- A start tag, with the keys of its attributes; of a value is only told whether there is
  one. -/
  | opening (tag : Text) (keys : Dictionary Bool) (closing : Bool)
  | closing (tag : Text)

/-- The keys of some attributes, each with whether it is written with a value. -/
def outline (attributes : Attributes) : Dictionary Bool :=
  attributes.map fun (key, value) => (key, value.value?.isSome)

mutual

/-- The tags that a child is rendered with. -/
def Child.brackets : Child → List Bracket
  | .text _ => []
  | .element tag attributes children =>
    if tag.isEmpty then bracketsOf children
    else if children.isEmpty then [.opening tag (outline attributes) true]
    else .opening tag (outline attributes) false :: (bracketsOf children ++ [.closing tag])

/-- The tags that some children are rendered with. -/
def bracketsOf : List Child → List Bracket
  | [] => []
  | child :: rest => child.brackets ++ bracketsOf rest

end

/-- The token of a start tag, with empty values. -/
def startToken (tag : Text) (keys : Dictionary Bool) (closing : Bool) : Token :=
  .startTag (Text.lowercase tag)
    (keys.map fun (key, valued) => (Text.lowercase key, if valued then some [] else none)) closing

/-- The shape that brackets have for a tokenizer, in a raw element or outside: a tag whose name
does not begin with a letter is none, and in a raw element only its end tag is one. -/
def shapeOf : Option Text → List Bracket → List Token
  | _, [] => []
  | none, .opening tag keys closing :: rest =>
    if beginsWithLetter tag then
      startToken tag keys closing :: shapeOf (rawElementAfter (startToken tag keys closing)) rest
    else shapeOf none rest
  | none, .closing tag :: rest =>
    if beginsWithLetter tag then .endTag (Text.lowercase tag) :: shapeOf none rest
    else shapeOf none rest
  | some element, .opening _ _ _ :: rest => shapeOf (some element) rest
  | some element, .closing tag :: rest =>
    if (tag.take element.length).map Text.asciiLower = element then
      if beginsWithLetter tag then .endTag (Text.lowercase tag) :: shapeOf none rest
      else shapeOf none rest
    else shapeOf (some element) rest

/-- A text has the shape of some brackets for a tokenizer, in every raw element and outside. -/
def HasBrackets (text : Text) (brackets : List Bracket) : Prop :=
  ∀ rawElement : Option Text, (∀ element ∈ rawElement, '>' ∉ element) →
    shape (tokensOf rawElement text) = shapeOf rawElement brackets

theorem hasBrackets_nil : HasBrackets [] [] := by
  intro rawElement _
  rw [tokensOf_nil]
  cases rawElement <;> rfl

theorem HasBrackets.run {run rest : Text} {brackets : List Bracket} (single : '<' ∉ run)
    (behind : HasBrackets rest brackets) : HasBrackets (run ++ rest) brackets := by
  intro rawElement short
  rw [shape_tokensOf_run single, behind rawElement short]

/-- What stands behind the first less-than sign of a rendered start tag. -/
def startTagText (tag : Text) (attributes : Attributes) (closing : Bool) : Text :=
  tag ++ (renderAttributes attributes ++ tagEnd closing [])

theorem tagEnd_append (closing : Bool) (rest : Text) :
    tagEnd closing rest = tagEnd closing [] ++ rest := by
  cases closing <;> rfl

/-- No less-than sign stands in a start tag behind the first. -/
theorem not_mem_startTagText {tag : Text} {attributes : Attributes}
    (validTag : isTagName tag = true)
    (valid : ∀ entry ∈ attributes, isAttributeName entry.1 = true) (closing : Bool) :
    '<' ∉ startTagText tag attributes closing := by
  have absentTag : '<' ∉ tag := Resolve.not_mem_sign_of_isTagName validTag '<' (by decide)
  have absent : '<' ∉ renderAttributes attributes := by
    simp only [renderAttributes, List.mem_flatMap, not_exists, not_and]
    rintro ⟨key, value⟩ member
    have absentKey : '<' ∉ key :=
      Resolve.not_mem_of_isAttributeName '<' (valid (key, value) member) (by decide)
    cases valued : value.value? with
    | none => simp [renderAttribute_of_none key valued, absentKey]
    | some text =>
      have absentText : '<' ∉ escape text := not_mem_escape (by decide) text
      simp [renderAttribute_of_some key valued, absentKey, absentText]
  have absentEnd : '<' ∉ tagEnd closing [] := by cases closing <;> decide
  simp [startTagText, absentTag, absent, absentEnd]

/-- The first character of a valid tag is no sign of markup. -/
theorem exists_cons_of_isTagName {tag : Text} (valid : isTagName tag = true) :
    ∃ c rest, tag = c :: rest ∧ c ∉ ['!', '?', '/'] := by
  cases tag with
  | nil => cases valid
  | cons c rest =>
    refine ⟨c, rest, rfl, ?_⟩
    have foreign : ['!', '?', '/'].all
        (fun mark => !Text.isWordChar mark && mark ≠ '-') = true := by
      decide
    intro member
    have apart := List.all_eq_true.mp foreign c member
    simp only [Bool.and_eq_true, Bool.not_eq_true', decide_eq_true_eq] at apart
    exact Resolve.not_mem_of_isTagName c valid apart.1 apart.2 (by simp)

/-- A less-than sign that begins no markup leaves no trace. -/
theorem shape_tokensOf_literal {rest : Text} (literal : readMarkup rest = .literal) :
    shape (tokensOf none ('<' :: rest)) = shape (tokensOf none rest) := by
  rw [tokensOf_literal literal, tokensOf_run rest, shape_append, shape_append, shape_textToken,
    shape_textToken]

theorem tokensOf_token {rest behind : Text} {token : Token}
    (read : readMarkup rest = .token token behind) :
    tokensOf none ('<' :: rest) = token :: tokensOf (rawElementAfter token) behind :=
  tokensOf_of_forward (scanStep_token read true)

theorem tokensOf_nothing {rest behind : Text} (read : readMarkup rest = .nothing behind) :
    tokensOf none ('<' :: rest) = tokensOf none behind :=
  tokensOf_of_forward (scanStep_nothing read true)

/-- The token of a rendered start tag has the shape that the outline of its attributes
tells. -/
theorem blank_startTag (tag : Text) (attributes : Attributes) (closing : Bool) :
    (Token.startTag (Text.lowercase tag) (writtenAttributes attributes) closing).blank =
      startToken tag (outline attributes) closing := by
  simp only [Token.blank, startToken, writtenAttributes, outline, List.map_map,
    Token.startTag.injEq, true_and, and_true]
  apply List.map_congr_left
  rintro ⟨key, value⟩ _
  cases valued : value.value? <;> simp [valued]

/-- A rendered start tag adds its bracket. -/
theorem HasBrackets.opening {tag : Text} {attributes : Attributes} {rest : Text}
    {brackets : List Bracket} (validTag : isTagName tag = true)
    (valid : ∀ entry ∈ attributes, isAttributeName entry.1 = true) (closing : Bool)
    (behind : HasBrackets rest brackets) :
    HasBrackets ('<' :: (startTagText tag attributes closing ++ rest))
      (.opening tag (outline attributes) closing :: brackets) := by
  have single := not_mem_startTagText validTag valid closing
  have read := readStartTag_render validTag valid closing rest
  obtain ⟨c, more, rfl, sign⟩ := exists_cons_of_isTagName validTag
  rw [tagEnd_append, ← List.append_assoc, ← List.append_assoc] at read
  rw [List.append_assoc (c :: more), ← startTagText] at read
  intro rawElement short
  cases rawElement with
  | some element =>
    have slash : c ≠ '/' := fun same => sign (by simp [same])
    have other : ¬ OpensEndTag element
        ('<' :: (startTagText (c :: more) attributes closing ++ rest)) :=
      not_opensEndTag_of_slash slash
    rw [shape_tokensOf_raw_cons other, shape_tokensOf_run single, behind (some element) short]
    rfl
  | none =>
    cases letter : Text.isAsciiLetter c with
    | true =>
      have token : readMarkup (startTagText (c :: more) attributes closing ++ rest) =
          .token (.startTag (Text.lowercase (c :: more)) (writtenAttributes attributes) closing)
            rest := (readMarkup_letter letter _).trans read
      have read : beginsWithLetter (c :: more) = true := by simp [beginsWithLetter, letter]
      have raw : rawElementAfter
            (.startTag (Text.lowercase (c :: more)) (writtenAttributes attributes) closing) =
          rawElementAfter (startToken (c :: more) (outline attributes) closing) := by
        cases closing <;> rfl
      rw [tokensOf_token token, raw, shapeOf, if_pos read,
        ← behind _ not_mem_of_rawElementAfter]
      exact congrArg (· :: _) (blank_startTag (c :: more) attributes closing)
    | false =>
      have literal : readMarkup (startTagText (c :: more) attributes closing ++ rest) = .literal :=
        readMarkup_literal letter sign _
      have unread : beginsWithLetter (c :: more) = false := by simp [beginsWithLetter, letter]
      rw [shape_tokensOf_literal literal, shape_tokensOf_run single, behind none short, shapeOf,
        unread]
      rfl

/-- An element's end tag begins where a rendered end tag has its name for a beginning. -/
theorem opensEndTag_iff {element : Text} (short : '>' ∉ element) (tag rest : Text) :
    OpensEndTag element ('<' :: '/' :: (tag ++ '>' :: rest)) ↔
      (tag.take element.length).map Text.asciiLower = element := by
  have opened : OpensEndTag element ('<' :: '/' :: (tag ++ '>' :: rest)) ↔
      ((tag ++ '>' :: rest).take element.length).map Text.asciiLower = element := by
    simp only [OpensEndTag, List.length_cons, List.take_succ_cons, List.map_cons, List.cons.injEq]
    exact ⟨fun same => same.2.2, fun same => ⟨by decide, by decide, same⟩⟩
  rw [opened]
  by_cases long : element.length ≤ tag.length
  · rw [List.take_append_of_le_length long]
  · constructor
    · intro same
      have member : '>' ∈ ((tag ++ '>' :: rest).take element.length).map Text.asciiLower := by
        rw [List.take_append, List.map_append, List.mem_append]
        obtain ⟨n, more⟩ : ∃ n, element.length - tag.length = n + 1 :=
          ⟨element.length - tag.length - 1, by omega⟩
        right
        rw [more, List.take_succ_cons, List.map_cons]
        exact List.mem_cons_self
      rw [same] at member
      exact absurd member short
    · intro same
      have lengths := congrArg List.length same
      simp only [List.length_map, List.length_take] at lengths
      omega

/-- A rendered end tag adds its bracket. -/
theorem HasBrackets.closing {tag : Text} {rest : Text} {brackets : List Bracket}
    (validTag : isTagName tag = true) (behind : HasBrackets rest brackets) :
    HasBrackets ('<' :: '/' :: (tag ++ '>' :: rest)) (.closing tag :: brackets) := by
  have outside : shape (tokensOf none ('<' :: '/' :: (tag ++ '>' :: rest))) =
      shapeOf none (.closing tag :: brackets) := by
    have read := (readMarkup_slash _).trans (readEndTag_render validTag rest)
    rw [shapeOf, ← behind none (by simp)]
    split at read
    · rename_i letter
      rw [tokensOf_token read, if_pos letter]
      rfl
    · rename_i letter
      rw [tokensOf_nothing read, if_neg letter]
  intro rawElement short
  cases rawElement with
  | none => exact outside
  | some element =>
    have opens := opensEndTag_iff (short element rfl) tag rest
    by_cases ends : (tag.take element.length).map Text.asciiLower = element
    · rw [shape_tokensOf_raw_endTag (opens.mpr ends), outside, shapeOf, shapeOf, if_pos ends]
    · have single : '<' ∉ '/' :: (tag ++ ['>']) := by
        have absent := Resolve.not_mem_sign_of_isTagName validTag '<' (by decide)
        simp [absent]
      have passed : '/' :: (tag ++ '>' :: rest) = '/' :: (tag ++ ['>']) ++ rest := by simp
      rw [shape_tokensOf_raw_cons (fun opened => ends (opens.mp opened)), passed,
        shape_tokensOf_run single, behind (some element) short, shapeOf, if_neg ends]

/-! ## Rendered trees -/

/-- A child in which every element has a valid name, or none, and valid keys. -/
inductive Child.Sound : Child → Prop where
  | text (content : Text) : Child.Sound (.text content)
  | element {tag : Text} {attributes : Attributes} {children : List Child}
      (named : tag = [] ∨ isTagName tag = true)
      (keyed : ∀ entry ∈ attributes, isAttributeName entry.1 = true)
      (inside : ∀ child ∈ children, Child.Sound child) :
      Child.Sound (.element tag attributes children)

/-- Children have the brackets of all of them, if each has its own. -/
theorem hasBrackets_children {children : List Child}
    (each : ∀ child ∈ children, ∀ {rest brackets}, HasBrackets rest brackets →
      HasBrackets (child.render ++ rest) (child.brackets ++ brackets))
    {rest : Text} {brackets : List Bracket} (behind : HasBrackets rest brackets) :
    HasBrackets (renderChildren children ++ rest) (bracketsOf children ++ brackets) := by
  induction children with
  | nil => exact behind
  | cons child children inductionHypothesis =>
    rw [renderChildren, bracketsOf, List.append_assoc, List.append_assoc]
    exact each child (by simp) (inductionHypothesis fun other member =>
      each other (List.mem_cons_of_mem child member))

/-- A rendered child has the brackets of that child. -/
theorem Child.Sound.hasBrackets {child : Child} (sound : child.Sound) {rest : Text}
    {brackets : List Bracket} (behind : HasBrackets rest brackets) :
    HasBrackets (child.render ++ rest) (child.brackets ++ brackets) := by
  induction sound generalizing rest brackets with
  | text content =>
    rw [Child.render, Child.brackets]
    exact behind.run (not_mem_escape (by decide) content)
  | @element tag attributes children named keyed inside inductionHypothesis =>
    rw [Child.render, Child.brackets, renderElement]
    rcases named with rfl | valid
    · exact hasBrackets_children inductionHypothesis behind
    have nonempty : tag.isEmpty = false := by
      simpa using (Resolve.of_isTagName valid).1
    cases empty : children.isEmpty with
    | true =>
      have written : '<' :: (tag ++ renderAttributes attributes) ++ ['/', '>'] ++ rest =
          '<' :: (startTagText tag attributes true ++ rest) := by
        simp [startTagText, tagEnd]
      simp only [nonempty, Bool.false_eq_true, if_false, if_true, List.cons_append] at written ⊢
      rw [written]
      exact behind.opening valid keyed true
    | false =>
      have inner := hasBrackets_children inductionHypothesis (behind.closing valid)
      have whole := inner.opening valid keyed false
      simp only [nonempty, Bool.false_eq_true, if_false]
      simpa [startTagText, tagEnd] using whole

/-- The tokens of a rendered node have the shape of its brackets. -/
theorem Node.shape_render {node : Node} (sound : node.toChild.Sound) :
    shape (tokenize [node.render]) = shapeOf none node.toChild.brackets := by
  have whole := sound.hasBrackets hasBrackets_nil none (by simp)
  rw [List.append_nil, List.append_nil] at whole
  rw [shape_tokenize_singleton]
  exact whole

end HtmlTemplate.Markup
