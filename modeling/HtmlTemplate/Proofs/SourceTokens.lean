import HtmlTemplate.Proofs.Parts
import HtmlTemplate.Proofs.Rendered
import HtmlTemplate.Proofs.SmallLetters

/-!
# The tokens of one text

All tokens of one text, with what is given out when the input ends: names are in small letters,
no text is empty, and a raw element that comes to its end holds one text at most
(`regular_tokensOfSource`).
-/

namespace HtmlTemplate

/-- A character is a letter if its small form is one. -/
theorem Text.isAsciiLetter_of_asciiLower {c : Char}
    (letter : Text.isAsciiLetter (Text.asciiLower c) = true) : Text.isAsciiLetter c = true := by
  unfold Text.asciiLower at letter
  split at letter
  · rename_i capital
    simp [Text.isAsciiLetter, capital]
  · exact letter

namespace Markup

/-! ## Names in small letters -/

/-- A letter goes on the name of a tag. -/
theorem isTagNameChar_of_letter {c : Char} (letter : Text.isAsciiLetter c = true) :
    isTagNameChar c = true := by
  have blank : Text.isBlank c = false := Text.isBlank_of_forall (by decide) letter
  have slash : c ≠ '/' := by rintro rfl; exact absurd letter (by decide)
  have greater : c ≠ '>' := by rintro rfl; exact absurd letter (by decide)
  simp [isTagNameChar, blank, slash, greater]

/-- What the names of a start tag have in common: they are in small letters, and that of the
element begins with a letter. -/
structure SmallNames (name : Text) (attributes : List WrittenAttribute) : Prop where
  letter : beginsWithLetter name = true
  small : Text.lowercase name = name
  keys : ∀ written ∈ attributes, Text.lowercase written.1 = written.1

/-- The name of an attribute is read in small letters. -/
theorem small_of_readAttribute? {text rest : Text} {written : WrittenAttribute}
    (read : readAttribute? text = some (written, rest)) :
    Text.lowercase written.1 = written.1 := by
  simp only [readAttribute?] at read
  split at read
  · cases read
  · split at read
    · obtain ⟨_, _, pair⟩ := Option.map_eq_some_iff.mp read
      obtain ⟨rfl, _⟩ := Prod.mk.inj pair
      exact Text.lowercase_lowercase _
    · obtain ⟨rfl, _⟩ := Prod.mk.inj (Option.some.inj read)
      exact Text.lowercase_lowercase _

/-- Each step of a start tag gives names in small letters. -/
theorem small_of_attributeStep? {text behind : Text} {written : WrittenAttribute}
    (taken : attributeStep? text = some (.attribute written behind)) :
    Text.lowercase written.1 = written.1 := by
  simp only [attributeStep?] at taken
  split at taken <;> try cases taken
  obtain ⟨⟨written', behind'⟩, read, same⟩ := Option.map_eq_some_iff.mp taken
  cases same
  exact small_of_readAttribute? read

/-- All attributes of a start tag have names in small letters. -/
theorem small_of_readAttributes? {text behind : Text} {attributes : List WrittenAttribute}
    {closing : Bool} (read : readAttributes? text = some (attributes, closing, behind)) :
    ∀ written ∈ attributes, Text.lowercase written.1 = written.1 := by
  fun_induction readAttributes? text generalizing attributes with
  | case1 => cases read
  | case2 => cases read; simp
  | case3 _ _ _ _ inductionHypothesis => exact inductionHypothesis read
  | case4 text first behind' taken _ inductionHypothesis =>
    obtain ⟨⟨others, closing', behind''⟩, rest, pair⟩ := Option.map_eq_some_iff.mp read
    cases pair
    intro written member
    rcases List.mem_cons.mp member with rfl | member
    · exact small_of_attributeStep? taken
    · exact inductionHypothesis rest written member

/-- A token of markup: a start tag with names in small letters, or a closing tag. -/
inductive IsTag : Token → Prop where
  | startTag {name : Text} {attributes : List WrittenAttribute} (closing : Bool)
      (names : SmallNames name attributes) : IsTag (.startTag name attributes closing)
  | endTag (name : Text) : IsTag (.endTag name)
  | genericClose : IsTag .genericClose

/-- An end tag is a closing tag, if it names anything. -/
theorem isTag_of_readEndTag {text behind : Text} {token : Token}
    (read : readEndTag text = .token token behind) : IsTag token := by
  by_cases generic : ∃ behind, text = '/' :: '>' :: behind
  · obtain ⟨behind', rfl⟩ := generic
    cases read
    exact .genericClose
  · rw [readEndTag_of_ne fun behind same => generic ⟨behind, same⟩] at read
    split at read
    · cases read
    · dsimp only at read
      split at read
      · cases read
        exact .endTag _
      · cases read

/-- Markup is read as tags only. -/
theorem isTag_of_readMarkup {rest behind : Text} {token : Token}
    (read : readMarkup rest = .token token behind) : IsTag token := by
  rcases of_readMarkup_token read with ⟨inside, _, read⟩ | ⟨c, inside, _, letter, read⟩
  · exact isTag_of_readEndTag read
  · rw [readStartTag] at read
    split at read
    · cases read
    · rename_i attributes closing behind' found
      cases read
      refine .startTag closing ⟨?_, Text.lowercase_lowercase _, small_of_readAttributes? found⟩
      rw [List.takeWhile_cons_of_pos (isTagNameChar_of_letter letter)]
      obtain ⟨small, kept, more, lowered⟩ := Text.lowercase_cons_letter letter _
      rw [lowered]
      simpa [beginsWithLetter] using kept

/-! ## Regular tokens -/

/-- Tokens of a text of its own: no text is empty, names are in small letters, and behind the
start tag of a raw element stand one text at most and an end tag, or texts only. -/
inductive Regular : List Token → Prop where
  | nil : Regular []
  | text {content : Text} {tokens : List Token} (nonempty : content ≠ [])
      (rest : Regular tokens) : Regular (.text content :: tokens)
  | startTag {name : Text} {attributes : List WrittenAttribute} {closing : Bool}
      {tokens : List Token} (names : SmallNames name attributes)
      (ordinary : rawElementAfter (.startTag name attributes closing) = none)
      (rest : Regular tokens) : Regular (.startTag name attributes closing :: tokens)
  | raw {name : Text} {attributes : List WrittenAttribute} {tokens : List Token}
      (names : SmallNames name attributes) (content found : Text) (rest : Regular tokens) :
      Regular (.startTag name attributes false ::
        (rawTextToken content ++ .endTag found :: tokens))
  | rawOpen {name : Text} {attributes : List WrittenAttribute} (texts : List Text) :
      Regular (.startTag name attributes false :: texts.map .text)
  | endTag (name : Text) {tokens : List Token} (rest : Regular tokens) :
      Regular (.endTag name :: tokens)
  | genericClose {tokens : List Token} (rest : Regular tokens) : Regular (.genericClose :: tokens)

/-- Tokens that go on inside a raw element, or outside. -/
def RegularIn : Option Text → List Token → Prop
  | none, tokens => Regular tokens
  | some _, tokens => (∃ texts : List Text, tokens = texts.map .text) ∨
      ∃ content found more, tokens = rawTextToken content ++ .endTag found :: more ∧ Regular more

/-- Tokens stay regular behind a text. -/
theorem Regular.textToken (text : Text) {tokens : List Token} (rest : Regular tokens) :
    Regular (textToken text ++ tokens) := by
  by_cases empty : text = []
  · simpa [empty] using rest
  · rw [textToken_of_ne_nil empty]
    exact .text (by simpa [decodeReferences_eq_nil_iff] using empty) rest

/-- A tag goes in front of what is regular behind it. -/
theorem Regular.tag {token : Token} (tag : IsTag token) {tokens : List Token}
    (rest : RegularIn (rawElementAfter token) tokens) : Regular (token :: tokens) := by
  cases tag with
  | @startTag name attributes closing names =>
    cases ordinary : rawElementAfter (.startTag name attributes closing) with
    | none =>
      rw [ordinary] at rest
      exact .startTag names ordinary rest
    | some element =>
      obtain rfl : closing = false := by
        cases closing
        · rfl
        · cases ordinary
      rw [ordinary] at rest
      rcases rest with ⟨texts, rfl⟩ | ⟨content, found, more, rfl, rest⟩
      · exact .rawOpen texts
      · exact .raw names content found rest
  | endTag name => exact .endTag name rest
  | genericClose => exact .genericClose rest

/-- All tokens of a text that is given in one part, inside a raw element or outside. -/
def tokensOfSource (rawElement : Option Text) (text : Text) : List Token :=
  (scan false rawElement text).1 ++
    tokensOf (scan false rawElement text).2.rawElement (scan false rawElement text).2.pending

/-- The tokens of a step that goes on come before those behind it. -/
theorem tokensOfSource_of_forward {rawElement rawElement' : Option Text} {c : Char} {rest : Text}
    {tokens : List Token} {behind : Text}
    (step : scanStep false rawElement c rest = .forward tokens rawElement' behind) :
    tokensOfSource rawElement (c :: rest) = tokens ++ tokensOfSource rawElement' behind := by
  rw [tokensOfSource, scan_of_forward step, List.append_assoc, tokensOfSource]

/-- What a step keeps is read at the end of the input. -/
theorem tokensOfSource_of_stop {rawElement : Option Text} {c : Char} {rest : Text}
    {tokens : List Token} {pending : Text}
    (step : scanStep false rawElement c rest = .stop tokens pending) :
    tokensOfSource rawElement (c :: rest) = tokens ++ tokensOf rawElement pending := by
  rw [tokensOfSource, scan_of_stop step]

/-- Markup that is never completed is text. -/
theorem tokensOfSource_incomplete {rest : Text} (read : readMarkup rest = .incomplete) :
    tokensOfSource none ('<' :: rest) = textToken ('<' :: rest) := by
  rw [tokensOfSource_of_stop (scanStep_waiting read), tokensOf_of_stop (scanStep_unended read),
    List.nil_append]

/-- Behind a slash a letter begins the name of an end tag. -/
theorem readEndTag_of_letter {c : Char} (letter : Text.isAsciiLetter c = true) (rest : Text) :
    readEndTag (c :: rest) = .incomplete ∨
      ∃ name behind, readEndTag (c :: rest) = .token (.endTag name) behind := by
  have slash : c ≠ '/' := by rintro rfl; exact absurd letter (by decide)
  have greater : c ≠ '>' := by rintro rfl; exact absurd letter (by decide)
  have visible : Text.isBlank c = false := Text.isBlank_of_forall (by decide) letter
  rw [readEndTag_of_ne fun behind same => slash (List.cons.inj same).1]
  split
  · exact .inl rfl
  · rename_i inner behind split
    refine .inr ⟨_, behind, if_pos ?_⟩
    obtain ⟨parts, _⟩ := Text.splitOnce_eq_some_iff.mp split
    cases inner with
    | nil => exact absurd (List.cons.inj parts).1 greater
    | cons d inner =>
      obtain ⟨rfl, _⟩ := List.cons.inj parts
      obtain ⟨trimmed, begins⟩ := Text.trim_cons visible inner
      have named : isEndTagNameChar c = true := by simp [isEndTagNameChar, visible, slash]
      simp [begins, named, letter]

/-- Where a raw element comes to its end, markup begins that is an end tag if it is complete. -/
theorem readMarkup_of_opensEndTag {name found : Text} (letter : beginsWithLetter name = true)
    (opens : OpensEndTag name found) :
    ∃ rest, found = '<' :: rest ∧
      (readMarkup rest = .incomplete ∨
        ∃ closed behind, readMarkup rest = .token (.endTag closed) behind) := by
  rcases name with _ | ⟨d, name⟩
  · cases letter
  rcases found with _ | ⟨c₁, _ | ⟨c₂, _ | ⟨c₃, rest⟩⟩⟩
  · cases opens
  · simp [OpensEndTag] at opens
  · simp [OpensEndTag] at opens
  simp only [OpensEndTag, List.length_cons, List.take_succ_cons, List.map_cons,
    List.cons.injEq] at opens
  obtain ⟨first, second, third, _⟩ := opens
  obtain rfl := Text.eq_of_asciiLower first (by decide)
  obtain rfl := Text.eq_of_asciiLower second (by decide)
  have named : Text.isAsciiLetter c₃ = true := by
    apply Text.isAsciiLetter_of_asciiLower
    rw [third]
    simpa [beginsWithLetter] using letter
  refine ⟨'/' :: c₃ :: rest, rfl, ?_⟩
  rw [readMarkup_slash]
  exact readEndTag_of_letter named rest

/-- The elements with raw text have names that begin with letters. -/
theorem letter_of_mem_rawElements : ∀ element ∈ rawElements, beginsWithLetter element = true := by
  decide

/-- Behind the text of a raw element comes its end tag, or only text. -/
theorem RegularIn.ended {element found : Text} (letter : beginsWithLetter element = true)
    (opens : OpensEndTag element found) (regular : Regular (tokensOfSource none found))
    (before : Text) :
    RegularIn (some element) (rawTextToken before ++ tokensOfSource none found) := by
  obtain ⟨inside, rfl, read⟩ := readMarkup_of_opensEndTag letter opens
  rcases read with read | ⟨closed, behind, read⟩
  · rw [tokensOfSource_incomplete read, textToken_of_ne_nil (by simp)]
    refine .inl ⟨(if before = [] then [] else [before]) ++ [decodeReferences ('<' :: inside)], ?_⟩
    by_cases empty : before = [] <;> simp [rawTextToken, empty]
  · rw [tokensOfSource_of_forward (scanStep_token read false)] at regular ⊢
    cases regular with
    | endTag _ rest => exact .inr ⟨before, closed, _, rfl, rest⟩

/-- All tokens of one text are regular. -/
theorem regular_tokensOfSource (rawElement : Option Text) (text : Text)
    (letter : ∀ element ∈ rawElement, beginsWithLetter element = true) :
    RegularIn rawElement (tokensOfSource rawElement text) := by
  induction size : scanMeasure rawElement text using Nat.strong_induction_on
      generalizing rawElement text with
  | _ size inductionHypothesis =>
    subst size
    rcases text with _ | ⟨c, rest⟩
    · rw [tokensOfSource, scan_nil, tokensOf_nil]
      cases rawElement with
      | none => exact .nil
      | some element => exact .inl ⟨[], rfl⟩
    -- A step forward leaves less to do, and its tokens come in front.
    have onward {tokens : List Token} {rawElement' : Option Text} {behind : Text}
        (step : scanStep false rawElement c rest = .forward tokens rawElement' behind)
        (kept : ∀ element ∈ rawElement', beginsWithLetter element = true) :
        RegularIn rawElement' (tokensOfSource rawElement' behind) :=
      inductionHypothesis _ (scanStep_measure step) rawElement' behind kept rfl
    have case := stepCase false rawElement c rest
    generalize same : scanStep false rawElement c rest = step at case
    cases case with
    | raw cut =>
      rw [tokensOfSource_of_forward same]
      exact .ended (letter _ rfl) (opensEndTag_of_cutAtEndTag? cut) (onward same (by simp)) _
    | rawWaiting cut =>
      rw [tokensOfSource_of_stop same, tokensOf_of_stop (scanStep_raw_unended cut)]
      exact .inl ⟨[c :: rest], rfl⟩
    | token read =>
      rw [tokensOfSource_of_forward same]
      exact Regular.tag (isTag_of_readMarkup read) (onward same fun element member =>
        letter_of_mem_rawElements element (mem_rawElements_of_rawElementAfter element member))
    | nothing =>
      rw [tokensOfSource_of_forward same]
      exact onward same (by simp)
    | literal =>
      rw [tokensOfSource_of_forward same]
      exact Regular.textToken _ (onward same (by simp))
    | waiting read =>
      rw [tokensOfSource_incomplete read, ← List.append_nil (textToken _)]
      exact Regular.textToken _ .nil
    | run =>
      rw [tokensOfSource_of_forward same]
      exact Regular.textToken _ (onward same (by simp))
    | settled =>
      have run : '<' ∉ (splitUnfinished (c :: rest)).2 :=
        (isUnfinished_splitUnfinished _).not_mem (by decide) (by decide)
      rw [tokensOfSource_of_stop same, tokensOf_of_notMem run,
        ← List.append_nil (textToken (splitUnfinished (c :: rest)).2)]
      exact Regular.textToken _ (Regular.textToken _ .nil)

end Markup

end HtmlTemplate
