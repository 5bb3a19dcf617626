import HtmlTemplate.Markup.Tokenizer
import HtmlTemplate.Proofs.References

/-!
# Readings in front of further text

A reading of markup that is complete stays as it is when more text comes behind, and the
markup that it takes ends with a greater-than sign. `readMarkup_append` and
`readMarkup_endsIn` say so for all markup; in front of them stand the same facts about each
part of a tag.
-/

namespace HtmlTemplate

/-- A character whose small form is no letter is that form. -/
theorem Text.eq_of_asciiLower {c mark : Char}
    (lower : Text.asciiLower c = mark) (other : Text.isAsciiLetter mark = false) : c = mark := by
  have small : ∀ code < 26, Text.isAsciiLetter (Char.ofNat (97 + code)) = true := by decide
  unfold Text.asciiLower at lower
  split at lower
  · rename_i capital
    have first : 65 ≤ c.toNat := capital.1
    have last : c.toNat ≤ 90 := capital.2
    have letter := small (c.toNat - 65) (by omega)
    rw [show 97 + (c.toNat - 65) = c.toNat + 32 by omega, lower, other] at letter
    cases letter
  · exact lower

namespace Markup

/-! ## Attributes -/

/-- Blanks end where something else stands, whatever comes behind it. -/
theorem skipBlanks_append {text rest : Text} {c : Char} (skipped : skipBlanks text = c :: rest)
    (more : Text) : skipBlanks (text ++ more) = c :: (rest ++ more) :=
  Text.dropWhile_append_of_stop skipped more

/-- Skipping blanks leaves an end of the text. -/
theorem skipBlanks_suffix (text : Text) : skipBlanks text <:+ text :=
  List.dropWhile_suffix _

/-- The name of an attribute is complete if something stands behind it. -/
theorem takeAttributeName_append {text name rest : Text} {c : Char}
    (taken : takeAttributeName text = (name, c :: rest)) (more : Text) :
    takeAttributeName (text ++ more) = (name, c :: (rest ++ more)) := by
  cases text with
  | nil => cases taken
  | cons d text =>
    simp only [takeAttributeName, List.cons_append] at taken ⊢
    split at taken
    · rename_i equals
      obtain ⟨rfl, stop⟩ := Prod.mk.inj taken
      rw [if_pos equals, Text.dropWhile_append_of_stop stop more,
        Text.takeWhile_append_of_stop stop more]
    · rename_i other
      obtain ⟨rfl, stop⟩ := Prod.mk.inj taken
      have behind := Text.dropWhile_append_of_stop stop more
      have name := Text.takeWhile_append_of_stop stop more
      rw [List.cons_append] at behind name
      rw [if_neg other, behind, name]

/-- Behind the name of an attribute an end of the text is left. -/
theorem takeAttributeName_suffix (text : Text) : (takeAttributeName text).2 <:+ text := by
  cases text with
  | nil => exact List.suffix_rfl
  | cons c rest =>
    simp only [takeAttributeName]
    split
    · exact (List.dropWhile_suffix _).trans (List.suffix_cons c rest)
    · exact List.dropWhile_suffix _

/-- The value of an attribute is complete if something stands behind it. -/
theorem takeAttributeValue?_append {text value rest : Text} {c : Char}
    (taken : takeAttributeValue? text = some (value, c :: rest)) (more : Text) :
    takeAttributeValue? (text ++ more) = some (value, c :: (rest ++ more)) := by
  cases text with
  | nil => cases taken
  | cons d text =>
    simp only [takeAttributeValue?, List.cons_append] at taken ⊢
    split at taken
    · rename_i quote
      rw [if_pos quote, Text.splitOnce_append taken more, List.cons_append]
    · rename_i bare
      obtain ⟨rfl, stop⟩ := Prod.mk.inj (Option.some.inj taken)
      have behind := Text.dropWhile_append_of_stop stop more
      have value := Text.takeWhile_append_of_stop stop more
      rw [List.cons_append] at behind value
      rw [if_neg bare, behind, value]

/-- Behind the value of an attribute an end of the text is left. -/
theorem takeAttributeValue?_suffix {text value rest : Text}
    (taken : takeAttributeValue? text = some (value, rest)) : rest <:+ text := by
  cases text with
  | nil => cases taken
  | cons c text =>
    simp only [takeAttributeValue?] at taken
    split at taken
    · exact (List.suffix_cons c rest).trans
        ((Text.splitOnce_suffix taken).trans (List.suffix_cons c text))
    · obtain ⟨_, rfl⟩ := Prod.mk.inj (Option.some.inj taken)
      exact List.dropWhile_suffix _

/-- An attribute is complete if something stands behind it. -/
theorem readAttribute?_append {text rest : Text} {written : WrittenAttribute} {c : Char}
    (read : readAttribute? text = some (written, c :: rest)) (more : Text) :
    readAttribute? (text ++ more) = some (written, c :: (rest ++ more)) := by
  rcases taken : takeAttributeName text with ⟨name, behind⟩
  simp only [readAttribute?, taken] at read
  split at read
  · cases read
  · rename_i d tail skipped
    cases behind with
    | nil => cases skipped
    | cons first behind =>
      have named := takeAttributeName_append taken more
      have skip := skipBlanks_append skipped more
      rw [List.cons_append] at skip
      simp only [readAttribute?, named, skip]
      split at read
      · rename_i equals
        rw [if_pos equals]
        obtain ⟨⟨value, left⟩, valued, pair⟩ := Option.map_eq_some_iff.mp read
        obtain ⟨rfl, rfl⟩ := Prod.mk.inj pair
        cases inner : skipBlanks tail with
        | nil =>
          rw [inner] at valued
          cases valued
        | cons e inside =>
          rw [inner] at valued
          have valued := takeAttributeValue?_append valued more
          rw [skipBlanks_append inner more, ← List.cons_append, valued]
          rfl
      · rename_i other
        rw [if_neg other]
        obtain ⟨rfl, pair⟩ := Prod.mk.inj (Option.some.inj read)
        obtain ⟨rfl, rfl⟩ := List.cons.inj pair
        rfl

/-- Behind an attribute an end of the text is left. -/
theorem readAttribute?_suffix {text rest : Text} {written : WrittenAttribute}
    (read : readAttribute? text = some (written, rest)) : rest <:+ text := by
  have named := takeAttributeName_suffix text
  simp only [readAttribute?] at read
  split at read
  · cases read
  · rename_i c tail skipped
    split at read
    · obtain ⟨⟨value, left⟩, valued, pair⟩ := Option.map_eq_some_iff.mp read
      obtain ⟨_, rfl⟩ := Prod.mk.inj pair
      have inner := (takeAttributeValue?_suffix valued).trans (skipBlanks_suffix tail)
      have outer := skipBlanks_suffix (takeAttributeName text).2
      rw [skipped] at outer
      exact inner.trans ((List.suffix_cons c tail).trans (outer.trans named))
    · obtain ⟨_, rfl⟩ := Prod.mk.inj (Option.some.inj read)
      exact named

/-! ## Start tags -/

/-- A greater-than sign ends the tag. -/
theorem attributeStep?_greater {text behind : Text} (skipped : skipBlanks text = '>' :: behind) :
    attributeStep? text = some (.ended false behind) := by
  simp [attributeStep?, skipped]

/-- A slash right in front of the greater-than sign closes the element as well. -/
theorem attributeStep?_closing {text behind : Text}
    (skipped : skipBlanks text = '/' :: '>' :: behind) :
    attributeStep? text = some (.ended true behind) := by
  simp [attributeStep?, skipped]

/-- Any other slash is passed over. -/
theorem attributeStep?_slash {text behind : Text} {c : Char}
    (skipped : skipBlanks text = '/' :: c :: behind) (greater : c ≠ '>') :
    attributeStep? text = some (.passed (c :: behind)) := by
  simp [attributeStep?, skipped, greater]

/-- What begins with neither of the two signs is an attribute. -/
theorem attributeStep?_attribute {text rest : Text} {c : Char}
    (skipped : skipBlanks text = c :: rest) (greater : c ≠ '>') (slash : c ≠ '/') :
    attributeStep? text =
      (readAttribute? (c :: rest)).map fun (written, behind) => .attribute written behind := by
  simp only [attributeStep?, skipped]
  split <;> simp_all

/-- A step with more text behind it. -/
def AttributeStep.extend (more : Text) : AttributeStep → AttributeStep
  | .ended closing behind => .ended closing (behind ++ more)
  | .passed behind => .passed (behind ++ more)
  | .attribute written behind => .attribute written (behind ++ more)

/-- A step is complete, unless it is an attribute that reaches up to the end. -/
theorem attributeStep?_append {text : Text} {step : AttributeStep}
    (taken : attributeStep? text = some step)
    (settled : ∀ written, step ≠ .attribute written []) (more : Text) :
    attributeStep? (text ++ more) = some (step.extend more) := by
  cases skipped : skipBlanks text with
  | nil => simp [attributeStep?, skipped] at taken
  | cons c rest =>
    have skippedMore := skipBlanks_append skipped more
    by_cases greater : c = '>'
    · subst greater
      rw [attributeStep?_greater skipped] at taken
      obtain rfl := Option.some.inj taken
      exact attributeStep?_greater skippedMore
    by_cases slash : c = '/'
    · subst slash
      cases rest with
      | nil => simp [attributeStep?, skipped] at taken
      | cons d rest =>
        by_cases closing : d = '>'
        · subst closing
          rw [attributeStep?_closing skipped] at taken
          obtain rfl := Option.some.inj taken
          exact attributeStep?_closing skippedMore
        · rw [attributeStep?_slash skipped closing] at taken
          obtain rfl := Option.some.inj taken
          exact attributeStep?_slash skippedMore closing
    · rw [attributeStep?_attribute skipped greater slash] at taken
      obtain ⟨⟨written, behind⟩, read, rfl⟩ := Option.map_eq_some_iff.mp taken
      cases behind with
      | nil => exact absurd rfl (settled written)
      | cons d behind =>
        have readMore := readAttribute?_append read more
        rw [List.cons_append] at readMore
        rw [attributeStep?_attribute skippedMore greater slash, readMore]
        rfl

/-- A step takes a beginning of the text. -/
theorem attributeStep?_suffix {text : Text} {step : AttributeStep}
    (taken : attributeStep? text = some step) : step.behind <:+ text := by
  have skip := skipBlanks_suffix text
  simp only [attributeStep?] at taken
  split at taken
  · cases taken
  · cases taken
  · rename_i behind skipped
    obtain rfl := Option.some.inj taken
    rw [skipped] at skip
    exact (List.suffix_cons _ _).trans skip
  · rename_i behind skipped
    obtain rfl := Option.some.inj taken
    rw [skipped] at skip
    exact ((List.suffix_cons _ _).trans (List.suffix_cons _ _)).trans skip
  · rename_i behind _ _ skipped
    obtain rfl := Option.some.inj taken
    rw [skipped] at skip
    exact (List.suffix_cons _ _).trans skip
  · rename_i c rest _ _ _ _ skipped
    obtain ⟨⟨written, behind⟩, read, rfl⟩ := Option.map_eq_some_iff.mp taken
    rw [skipped] at skip
    exact (readAttribute?_suffix read).trans skip

/-- The step that ends a tag takes a greater-than sign last. -/
theorem attributeStep?_ended_suffix {text behind : Text} {closing : Bool}
    (taken : attributeStep? text = some (.ended closing behind)) : '>' :: behind <:+ text := by
  have skip := skipBlanks_suffix text
  simp only [attributeStep?] at taken
  split at taken
  · cases taken
  · cases taken
  · rename_i skipped
    cases taken
    rwa [skipped] at skip
  · rename_i skipped
    cases taken
    rw [skipped] at skip
    exact (List.suffix_cons _ _).trans skip
  · cases taken
  · obtain ⟨_, _, impossible⟩ := Option.map_eq_some_iff.mp taken
    cases impossible

/-- A start tag without its end is not complete. -/
theorem readAttributes?_nil : readAttributes? [] = none := by
  rw [readAttributes?]
  rfl

/-- At its end a start tag has no further attributes. -/
theorem readAttributes?_ended {text behind : Text} {closing : Bool}
    (taken : attributeStep? text = some (.ended closing behind)) :
    readAttributes? text = some ([], closing, behind) := by
  rw [readAttributes?]
  split <;> simp_all

/-- What is passed over adds no attribute. -/
theorem readAttributes?_passed {text behind : Text}
    (taken : attributeStep? text = some (.passed behind)) :
    readAttributes? text = readAttributes? behind := by
  rw [readAttributes?]
  split <;> simp_all

/-- An attribute stands in front of those that are read behind it. -/
theorem readAttributes?_attribute {text behind : Text} {written : WrittenAttribute}
    (taken : attributeStep? text = some (.attribute written behind)) :
    readAttributes? text =
      (readAttributes? behind).map fun (more, closing) => (written :: more, closing) := by
  rw [readAttributes?]
  split <;> simp_all

/-- The attributes of a start tag that has ended stay the same. -/
theorem readAttributes?_append {text behind : Text} {written : List WrittenAttribute}
    {closing : Bool} (read : readAttributes? text = some (written, closing, behind))
    (more : Text) :
    readAttributes? (text ++ more) = some (written, closing, behind ++ more) := by
  fun_induction readAttributes? text generalizing written with
  | case1 => cases read
  | case2 text closing' behind' taken =>
    cases read
    exact readAttributes?_ended (attributeStep?_append taken (by simp) more)
  | case3 text behind' taken _ inductionHypothesis =>
    rw [readAttributes?_passed (attributeStep?_append taken (by simp) more)]
    exact inductionHypothesis read
  | case4 text first behind' taken _ inductionHypothesis =>
    obtain ⟨⟨others, closing', behind''⟩, rest, pair⟩ := Option.map_eq_some_iff.mp read
    cases pair
    have settled : ∀ written, AttributeStep.attribute first behind' ≠ .attribute written [] := by
      intro written same
      cases same
      rw [readAttributes?_nil] at rest
      cases rest
    rw [readAttributes?_attribute (attributeStep?_append taken settled more),
      inductionHypothesis rest]
    rfl

/-- The attributes of a start tag take a greater-than sign last. -/
theorem readAttributes?_suffix {text behind : Text} {written : List WrittenAttribute}
    {closing : Bool} (read : readAttributes? text = some (written, closing, behind)) :
    '>' :: behind <:+ text := by
  fun_induction readAttributes? text generalizing written with
  | case1 => cases read
  | case2 text closing' behind' taken =>
    cases read
    exact attributeStep?_ended_suffix taken
  | case3 text behind' taken _ inductionHypothesis =>
    exact (inductionHypothesis read).trans (attributeStep?_suffix taken)
  | case4 text first behind' taken _ inductionHypothesis =>
    obtain ⟨⟨others, closing', behind''⟩, rest, pair⟩ := Option.map_eq_some_iff.mp read
    cases pair
    exact (inductionHypothesis rest).trans (attributeStep?_suffix taken)

/-! ## Markup -/

/-- A reading with more text behind it. -/
def Reading.extend (more : Text) : Reading → Reading
  | .token read behind => .token read (behind ++ more)
  | .nothing behind => .nothing (behind ++ more)
  | .literal => .literal
  | .incomplete => .incomplete

/-- A complete start tag stays the same when more text comes behind it. -/
theorem readStartTag_append {text : Text} (complete : readStartTag text ≠ .incomplete)
    (more : Text) : readStartTag (text ++ more) = (readStartTag text).extend more := by
  simp only [readStartTag] at complete ⊢
  cases read : readAttributes? (text.dropWhile isTagNameChar) with
  | none => simp [read] at complete
  | some found =>
    obtain ⟨written, closing, behind⟩ := found
    cases stop : text.dropWhile isTagNameChar with
    | nil =>
      rw [stop, readAttributes?_nil] at read
      cases read
    | cons c rest =>
      rw [stop] at read
      have readMore := readAttributes?_append read more
      rw [List.cons_append] at readMore
      rw [Text.dropWhile_append_of_stop stop more, Text.takeWhile_append_of_stop stop more,
        readMore]
      rfl

/-- What does not close the open element, whatever it is, ends at the first greater-than
sign. -/
theorem readEndTag_of_ne {text : Text} (named : ∀ behind, text ≠ '/' :: '>' :: behind) :
    readEndTag text =
      match Text.splitOnce '>' text with
      | none => .incomplete
      | some (inner, behind) =>
        let name := (Text.trim inner).takeWhile isEndTagNameChar
        if (name.head?.map Text.isAsciiLetter).getD false then
          .token (.endTag (Text.lowercase name)) behind
        else .nothing behind := by
  unfold readEndTag
  split
  · exact absurd rfl (named _)
  · rfl

/-- A complete end tag stays the same when more text comes behind it. -/
theorem readEndTag_append {text : Text} (complete : readEndTag text ≠ .incomplete)
    (more : Text) : readEndTag (text ++ more) = (readEndTag text).extend more := by
  by_cases generic : ∃ behind, text = '/' :: '>' :: behind
  · obtain ⟨behind, rfl⟩ := generic
    rfl
  have named : ∀ behind, text ≠ '/' :: '>' :: behind := fun behind same =>
    generic ⟨behind, same⟩
  rw [readEndTag_of_ne named] at complete ⊢
  cases split : Text.splitOnce '>' text with
  | none => simp [split] at complete
  | some found =>
    obtain ⟨inner, behind⟩ := found
    have namedMore : ∀ behind, text ++ more ≠ '/' :: '>' :: behind := by
      intro behind same
      obtain ⟨parts, absent⟩ := Text.splitOnce_eq_some_iff.mp split
      rcases text with _ | ⟨c, _ | ⟨d, rest⟩⟩
      · cases inner <;> simp at parts
      · obtain ⟨rfl, _⟩ := List.cons.inj same
        cases inner with
        | nil => simp at parts
        | cons e inner => cases inner <;> simp at parts
      · simp only [List.cons_append, List.cons.injEq] at same
        obtain ⟨rfl, rfl, _⟩ := same
        exact named rest rfl
    rw [readEndTag_of_ne namedMore, Text.splitOnce_append split more]
    dsimp only
    split <;> rfl

/-- A complete declaration stays the same when more text comes behind it. -/
theorem readDeclaration_append {text : Text} (complete : readDeclaration text ≠ .incomplete)
    (more : Text) : readDeclaration (text ++ more) = (readDeclaration text).extend more := by
  simp only [readDeclaration] at complete ⊢
  cases split : Text.splitOnce '>' text with
  | none => simp [split] at complete
  | some found =>
    rw [Text.splitOnce_append split more]
    rfl

/-- A complete comment stays the same when more text comes behind it. -/
theorem readComment_append {text : Text} (complete : readComment text ≠ .incomplete)
    (more : Text) : readComment (text ++ more) = (readComment text).extend more := by
  simp only [readComment] at complete ⊢
  cases cut : Text.cutAt? ['-', '-', '>'] text with
  | none => simp [cut] at complete
  | some found =>
    obtain ⟨before, found⟩ := found
    obtain ⟨rest, rfl⟩ := (Text.cutAt?_spec cut).2
    rw [Text.cutAt?_append cut more]
    rfl

/-- An exclamation mark and two hyphens begin a comment. -/
theorem readMarkup_comment (rest : Text) :
    readMarkup ('!' :: '-' :: '-' :: rest) = readComment rest := rfl

/-- A slash begins an end tag. -/
theorem readMarkup_slash (rest : Text) : readMarkup ('/' :: rest) = readEndTag rest := by
  simp [readMarkup]

/-- A letter begins a start tag. -/
theorem readMarkup_letter {c : Char} (letter : Text.isAsciiLetter c = true) (rest : Text) :
    readMarkup (c :: rest) = readStartTag (c :: rest) := by
  have other : c ≠ '!' ∧ c ≠ '?' ∧ c ≠ '/' := by
    refine ⟨?_, ?_, ?_⟩ <;> rintro rfl <;> exact absurd letter (by decide)
  simp [readMarkup, letter, other]

/-- Behind a less-than sign any character but a letter, a slash, an exclamation mark and a
question mark makes the sign a literal one. -/
theorem readMarkup_literal {c : Char} (letter : Text.isAsciiLetter c = false)
    (other : c ∉ ['!', '?', '/']) (rest : Text) : readMarkup (c :: rest) = .literal := by
  simp only [List.mem_cons, List.not_mem_nil, or_false, not_or] at other
  simp [readMarkup, letter, other]

/-- What stands behind an exclamation mark shows that no comment begins there: it neither
begins with two hyphens nor can still do so. -/
structure RulesOutComment (rest : Text) : Prop where
  nonempty : rest ≠ []
  longer : rest ≠ ['-']
  other : ∀ inside, rest ≠ '-' :: '-' :: inside

/-- That no comment begins does not change with what comes behind. -/
theorem RulesOutComment.append {rest : Text} (declared : RulesOutComment rest) (more : Text) :
    RulesOutComment (rest ++ more) := by
  obtain ⟨nonempty, longer, other⟩ := declared
  rcases rest with _ | ⟨d, _ | ⟨e, rest⟩⟩
  · exact absurd rfl nonempty
  · constructor <;> simp_all
  · constructor <;> simp_all

/-- Behind an exclamation mark that begins no comment, and behind a question mark, all is
dropped up to a greater-than sign. -/
theorem readMarkup_declaration {c : Char} {rest : Text} (mark : c = '!' ∨ c = '?')
    (declared : c = '!' → RulesOutComment rest) :
    readMarkup (c :: rest) = readDeclaration rest := by
  rcases mark with rfl | rfl
  · obtain ⟨nonempty, longer, other⟩ := declared rfl
    rcases rest with _ | ⟨d, _ | ⟨e, rest⟩⟩
    · exact absurd rfl nonempty
    · simp_all [readMarkup]
    · simp_all [readMarkup]
  · simp [readMarkup]

/-- A complete reading stays the same when more text comes behind it. -/
theorem readMarkup_append {text : Text} (complete : readMarkup text ≠ .incomplete)
    (more : Text) : readMarkup (text ++ more) = (readMarkup text).extend more := by
  fun_cases readMarkup text with
  | case1 => exact absurd rfl complete
  | case2 rest =>
    rw [readMarkup_comment] at complete
    exact readComment_append complete more
  | case3 => exact absurd rfl complete
  | case4 => exact absurd rfl complete
  | case5 c rest hyphens nonempty longer mark =>
    have declared : c = '!' → RulesOutComment rest := fun bang =>
      ⟨nonempty bang, longer bang, fun inside same => hyphens inside bang same⟩
    rw [readMarkup_declaration mark declared] at complete
    rw [List.cons_append,
      readMarkup_declaration mark fun bang => (declared bang).append more]
    exact readDeclaration_append complete more
  | case6 rest =>
    rw [readMarkup_slash] at complete
    rw [List.cons_append, readMarkup_slash]
    exact readEndTag_append complete more
  | case7 c rest _ _ _ _ _ letter =>
    rw [readMarkup_letter letter] at complete
    rw [List.cons_append, readMarkup_letter letter]
    exact readStartTag_append complete more
  | case8 c rest _ _ _ mark slash letter =>
    have other : c ∉ ['!', '?', '/'] := by simp_all
    rw [List.cons_append, readMarkup_literal (by simpa using letter) other]
    rfl

/-- Markup that is a token is an end tag or a start tag. -/
theorem of_readMarkup_token {text behind : Text} {token : Token}
    (read : readMarkup text = .token token behind) :
    (∃ inside, text = '/' :: inside ∧ readEndTag inside = .token token behind) ∨
      ∃ c inside, text = c :: inside ∧ Text.isAsciiLetter c = true ∧
        readStartTag (c :: inside) = .token token behind := by
  fun_cases readMarkup text with
  | case1 => cases read
  | case2 inside =>
    rw [readMarkup_comment, readComment] at read
    split at read <;> cases read
  | case3 => cases read
  | case4 => cases read
  | case5 c inside hyphens nonempty longer mark =>
    have declared : c = '!' → RulesOutComment inside := fun bang =>
      ⟨nonempty bang, longer bang, fun inside same => hyphens inside bang same⟩
    rw [readMarkup_declaration mark declared, readDeclaration] at read
    split at read <;> cases read
  | case6 inside =>
    rw [readMarkup_slash] at read
    exact .inl ⟨inside, rfl, read⟩
  | case7 c inside _ _ _ _ _ letter =>
    rw [readMarkup_letter letter] at read
    exact .inr ⟨c, inside, rfl, letter, read⟩
  | case8 c inside _ _ _ mark slash letter =>
    rw [readMarkup_literal (by simpa using letter) (by simp_all)] at read
    cases read

/-! ## What markup takes -/

/-- What a reading takes of a text ends with a greater-than sign. -/
def Reading.EndsIn (text : Text) : Reading → Prop
  | .token _ behind => '>' :: behind <:+ text
  | .nothing behind => '>' :: behind <:+ text
  | .literal => True
  | .incomplete => True

/-- What ends in a text ends in a longer one with the same end. -/
theorem Reading.EndsIn.mono {reading : Reading} {text longer : Text}
    (ends : reading.EndsIn text) (within : text <:+ longer) : reading.EndsIn longer := by
  cases reading with
  | token _ behind => exact List.IsSuffix.trans ends within
  | nothing behind => exact List.IsSuffix.trans ends within
  | literal => trivial
  | incomplete => trivial

/-- A start tag takes a greater-than sign last. -/
theorem readStartTag_endsIn (text : Text) : (readStartTag text).EndsIn text := by
  simp only [readStartTag]
  split
  · trivial
  · rename_i read
    exact (readAttributes?_suffix read).trans (List.dropWhile_suffix _)

/-- A declaration takes a greater-than sign last. -/
theorem readDeclaration_endsIn (text : Text) : (readDeclaration text).EndsIn text := by
  simp only [readDeclaration]
  split
  · trivial
  · rename_i split
    exact Text.splitOnce_suffix split

/-- An end tag takes a greater-than sign last. -/
theorem readEndTag_endsIn (text : Text) : (readEndTag text).EndsIn text := by
  simp only [readEndTag]
  split
  · exact List.suffix_cons _ _
  · split
    · trivial
    · rename_i split
      split <;> exact Text.splitOnce_suffix split

/-- A comment takes a greater-than sign last. -/
theorem readComment_endsIn (text : Text) : (readComment text).EndsIn text := by
  simp only [readComment]
  split
  · trivial
  · rename_i before found cut
    obtain ⟨parts, rest, rfl⟩ := Text.cutAt?_spec cut
    refine ⟨before ++ ['-', '-'], ?_⟩
    rw [parts]
    simp

/-- Markup that is complete ends with a greater-than sign. -/
theorem readMarkup_endsIn (text : Text) : (readMarkup text).EndsIn text := by
  fun_cases readMarkup text with
  | case1 => trivial
  | case2 rest => exact (readComment_endsIn rest).mono ⟨['!', '-', '-'], rfl⟩
  | case3 => trivial
  | case4 => trivial
  | case5 c rest => exact (readDeclaration_endsIn rest).mono (List.suffix_cons c rest)
  | case6 rest => exact (readEndTag_endsIn rest).mono (List.suffix_cons '/' rest)
  | case7 c rest => exact readStartTag_endsIn (c :: rest)
  | case8 => trivial

end Markup

end HtmlTemplate
