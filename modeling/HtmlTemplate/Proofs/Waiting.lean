import HtmlTemplate.Proofs.Readings

/-!
# Readings that had to wait

A reading of markup that the text ends too early for does not end within that text: when more
text comes behind it, what is read ends in the further text (`readMarkup_endsBeyond`). So nothing
that is complete is ever made to wait.
-/

namespace HtmlTemplate

namespace Text

/-- A mark that a text does not hold stands in what comes behind it. -/
theorem length_lt_of_suffix {mark : Char} {text more behind : Text} (absent : mark ∉ text)
    (suffix : mark :: behind <:+ text ++ more) : behind.length < more.length := by
  obtain ⟨front, parts⟩ := suffix
  rcases List.append_eq_append_iff.mp parts with
    ⟨between, rfl, inside⟩ | ⟨between, rfl, rfl⟩
  · cases between with
    | nil =>
      rw [List.nil_append] at inside
      rw [← inside, List.length_cons]
      exact Nat.lt_succ_self _
    | cons c between =>
      obtain ⟨rfl, _⟩ := List.cons.inj inside
      simp at absent
  · simp only [List.length_append, List.length_cons]
    omega

/-- A needle that a text does not hold is found in such a way that it ends in what comes behind
the text. -/
theorem cutAt?_endsBeyond {needle text before found more : Text} (nonempty : needle ≠ [])
    (uncut : cutAt? needle text = none)
    (cut : cutAt? needle (text ++ more) = some (before, found)) :
    found.length < needle.length + more.length := by
  have short : 0 < needle.length := List.length_pos_iff.mpr nonempty
  induction text generalizing before with
  | nil =>
    have parts := congrArg List.length (cutAt?_spec cut).1
    simp only [List.nil_append, List.length_append] at parts
    omega
  | cons c rest inductionHypothesis =>
    simp only [cutAt?] at uncut
    simp only [List.cons_append, cutAt?] at cut
    split at uncut
    · cases uncut
    · rename_i other
      split at cut
      · rename_i begins
        obtain ⟨_, rfl⟩ := Prod.mk.inj (Option.some.inj cut)
        by_contra long
        have whole : needle.length ≤ (c :: rest).length := by
          simp only [List.length_cons, List.length_append] at long ⊢
          omega
        rw [← List.cons_append, isPrefixOf_append whole more] at begins
        exact other begins
      · obtain ⟨⟨front, back⟩, later, pair⟩ := Option.map_eq_some_iff.mp cut
        obtain ⟨_, rfl⟩ := Prod.mk.inj pair
        exact inductionHypothesis (by simpa using uncut) later

end Text

namespace Markup

/-! ## Attributes -/

theorem skipBlanks_append_of_nil {text : Text} (blank : skipBlanks text = []) (more : Text) :
    skipBlanks (text ++ more) = skipBlanks more :=
  Text.dropWhile_append_of_nil blank more

theorem skipBlanks_skipBlanks (text : Text) : skipBlanks (skipBlanks text) = skipBlanks text := by
  cases skipped : skipBlanks text with
  | nil => rfl
  | cons c rest => simp [skipBlanks, not_isBlank_of_skipBlanks skipped]

/-- A name that reaches up to the end of a text ends further on. -/
theorem takeAttributeName_endsBeyond {text : Text} (open' : (takeAttributeName text).2 = [])
    (more : Text) : (takeAttributeName (text ++ more)).2 <:+ more := by
  cases text with
  | nil => exact takeAttributeName_suffix more
  | cons c rest =>
    simp only [takeAttributeName, List.cons_append] at open' ⊢
    split at open'
    · rename_i equals
      rw [if_pos equals]
      dsimp only
      rw [Text.dropWhile_append_of_nil open']
      exact List.dropWhile_suffix _
    · rename_i other
      rw [if_neg other]
      dsimp only at open' ⊢
      rw [← List.cons_append, Text.dropWhile_append_of_nil open']
      exact List.dropWhile_suffix _

/-- A value that is not complete, or that reaches up to the end of a text, ends further on. -/
theorem takeAttributeValue?_endsBeyond {text more value rest : Text}
    (waits : ∀ value c left, takeAttributeValue? text ≠ some (value, c :: left))
    (taken : takeAttributeValue? (text ++ more) = some (value, rest)) :
    rest.length ≤ more.length := by
  cases text with
  | nil => exact takeAttributeValue?_length taken
  | cons c text =>
    simp only [takeAttributeValue?, List.cons_append] at waits taken
    split at taken
    · rename_i quote
      rw [if_pos quote] at waits
      cases split : Text.splitOnce c text with
      | none =>
        have absent := Text.splitOnce_eq_none_iff.mp split
        exact Nat.le_of_lt (Text.length_lt_of_suffix absent (Text.splitOnce_suffix taken))
      | some found =>
        obtain ⟨before, after⟩ := found
        rw [Text.splitOnce_append split] at taken
        cases after with
        | nil =>
          cases taken
          exact Nat.le_refl _
        | cons d after => exact absurd split (waits before d after)
    · rename_i bare
      rw [if_neg bare] at waits
      obtain ⟨_, rfl⟩ := Prod.mk.inj (Option.some.inj taken)
      have all : (c :: text).dropWhile isBareValueChar = [] := by
        rcases left : (c :: text).dropWhile isBareValueChar with _ | ⟨d, left'⟩
        · rfl
        · rw [left] at waits
          exact absurd rfl (waits _ d left')
      rw [← List.cons_append, Text.dropWhile_append_of_nil all]
      exact dropWhile_length_le _ _

/-- What stands behind an attribute stands behind its name. Blanks may be in front of both. -/
theorem readAttribute?_length_behind_name {text rest : Text} {written : WrittenAttribute}
    (read : readAttribute? text = some (written, rest)) :
    (skipBlanks rest).length ≤ (skipBlanks (takeAttributeName text).2).length := by
  simp only [readAttribute?] at read
  split at read
  · cases read
  · rename_i d tail skipped
    split at read
    · obtain ⟨⟨value, left⟩, valued, pair⟩ := Option.map_eq_some_iff.mp read
      simp only [Prod.mk.injEq] at pair
      obtain ⟨_, rfl⟩ := pair
      calc (skipBlanks left).length
          ≤ left.length := skipBlanks_length_le left
        _ ≤ (skipBlanks tail).length := takeAttributeValue?_length valued
        _ ≤ tail.length := skipBlanks_length_le tail
        _ ≤ (skipBlanks (takeAttributeName text).2).length := by simp [skipped]
    · obtain ⟨_, rfl⟩ := Prod.mk.inj (Option.some.inj read)
      exact Nat.le_refl _

/-- An attribute that is not complete, or that reaches up to the end of a text, ends further on.
Blanks behind its name may still be ahead. -/
theorem readAttribute?_endsBeyond {text more rest : Text} {written : WrittenAttribute}
    (waits : ∀ written c left, readAttribute? text ≠ some (written, c :: left))
    (read : readAttribute? (text ++ more) = some (written, rest)) :
    (skipBlanks rest).length ≤ more.length := by
  have behindName := readAttribute?_length_behind_name read
  rcases taken : takeAttributeName text with ⟨name, _ | ⟨c, behind⟩⟩
  · -- The name reaches up to the end, and so all that follows it stands further on.
    have beyond := takeAttributeName_endsBeyond (by rw [taken]) more
    calc (skipBlanks rest).length
        ≤ (skipBlanks (takeAttributeName (text ++ more)).2).length := behindName
      _ ≤ (takeAttributeName (text ++ more)).2.length := skipBlanks_length_le _
      _ ≤ more.length := beyond.length_le
  · have takenMore := takeAttributeName_append taken more
    rw [takenMore, ← List.cons_append] at behindName
    cases skipped : skipBlanks (c :: behind) with
    | nil =>
      -- What decides whether a value follows stands further on.
      rw [skipBlanks_append_of_nil skipped more] at behindName
      exact Nat.le_trans behindName (skipBlanks_length_le more)
    | cons d tail =>
      have shorter := skipBlanks_length_le rest
      simp only [readAttribute?, takenMore] at read
      simp only [readAttribute?, taken] at waits
      rw [← List.cons_append, skipBlanks_append skipped more] at read
      rw [skipped] at waits
      dsimp only at read waits
      split at read
      · rename_i equals
        rw [if_pos equals] at waits
        obtain ⟨⟨value, left⟩, valued, pair⟩ := Option.map_eq_some_iff.mp read
        simp only [Prod.mk.injEq] at pair
        obtain ⟨_, rfl⟩ := pair
        cases inner : skipBlanks tail with
        | nil =>
          rw [skipBlanks_append_of_nil inner] at valued
          have := takeAttributeValue?_length valued
          have := skipBlanks_length_le more
          omega
        | cons e inside =>
          rw [skipBlanks_append inner, ← List.cons_append, ← inner] at valued
          have := takeAttributeValue?_endsBeyond (fun value first others found =>
            waits _ first others (by rw [found]; rfl)) valued
          omega
      · rename_i other
        rw [if_neg other] at waits
        exact absurd rfl (waits _ c behind)

/-! ## Start tags -/

theorem attributeStep?_skipBlanks (text : Text) :
    attributeStep? (skipBlanks text) = attributeStep? text := by
  simp only [attributeStep?, skipBlanks_skipBlanks]

/-- A step behind which the attributes of a text are not settled ends further on. Blanks behind
the name of an attribute may still be ahead. -/
theorem attributeStep?_endsBeyond {text more : Text} {step : AttributeStep}
    (waits : attributeStep? text = none ∨
      ∃ written, attributeStep? text = some (.attribute written []))
    (taken : attributeStep? (text ++ more) = some step) :
    (skipBlanks step.behind).length ≤ more.length ∧
      ∀ closing behind, step = .ended closing behind → behind.length < more.length := by
  cases skipped : skipBlanks text with
  | nil =>
    rw [← attributeStep?_skipBlanks, skipBlanks_append_of_nil skipped, attributeStep?_skipBlanks]
      at taken
    have shorter := attributeStep?_length taken
    have := skipBlanks_length_le step.behind
    refine ⟨by omega, ?_⟩
    rintro closing behind rfl
    exact shorter
  | cons c rest =>
    have skippedMore := skipBlanks_append skipped more
    by_cases greater : c = '>'
    · subst greater
      simp [attributeStep?_greater skipped] at waits
    by_cases slash : c = '/'
    · subst slash
      cases rest with
      | cons d rest =>
        by_cases closing : d = '>'
        · subst closing
          simp [attributeStep?_closing skipped] at waits
        · simp [attributeStep?_slash skipped closing] at waits
      | nil =>
        rcases more with _ | ⟨d, more⟩
        · rw [List.append_nil] at taken
          simp [attributeStep?, skipped] at taken
        by_cases closing : d = '>'
        · subst closing
          rw [attributeStep?_closing skippedMore] at taken
          cases taken
          have := skipBlanks_length_le more
          simp [AttributeStep.behind]
          omega
        · rw [attributeStep?_slash skippedMore closing] at taken
          cases taken
          exact ⟨skipBlanks_length_le _, by simp⟩
    · rw [attributeStep?_attribute skipped greater slash] at waits
      rw [attributeStep?_attribute skippedMore greater slash] at taken
      obtain ⟨⟨written, behind⟩, read, rfl⟩ := Option.map_eq_some_iff.mp taken
      rw [← List.cons_append] at read
      refine ⟨readAttribute?_endsBeyond ?_ read, by simp⟩
      intro written' d left found
      simp [found] at waits

theorem readAttributes?_eq_none {text : Text} (taken : attributeStep? text = none) :
    readAttributes? text = none := by
  rw [readAttributes?]
  split <;> simp_all

theorem readAttributes?_skipBlanks (text : Text) :
    readAttributes? (skipBlanks text) = readAttributes? text := by
  have same := attributeStep?_skipBlanks text
  rcases taken : attributeStep? text with _ | ⟨closing, behind⟩ | behind | ⟨written, behind⟩
  · rw [readAttributes?_eq_none taken, readAttributes?_eq_none (same.trans taken)]
  · rw [readAttributes?_ended taken, readAttributes?_ended (same.trans taken)]
  · rw [readAttributes?_passed taken, readAttributes?_passed (same.trans taken)]
  · rw [readAttributes?_attribute taken, readAttributes?_attribute (same.trans taken)]

theorem readAttributes?_length_skipBlanks {text behind : Text} {written : List WrittenAttribute}
    {closing : Bool} (read : readAttributes? text = some (written, closing, behind)) :
    behind.length < (skipBlanks text).length := by
  rw [← readAttributes?_skipBlanks] at read
  exact readAttributes?_length read

/-- If already the first step is not settled the attributes end further on. -/
theorem readAttributes?_endsBeyond_step {text more behind : Text}
    {written : List WrittenAttribute} {closing : Bool}
    (waits : attributeStep? text = none ∨
      ∃ written, attributeStep? text = some (.attribute written []))
    (read : readAttributes? (text ++ more) = some (written, closing, behind)) :
    behind.length < more.length := by
  cases taken : attributeStep? (text ++ more) with
  | none =>
    rw [readAttributes?_eq_none taken] at read
    cases read
  | some step =>
    obtain ⟨ahead, ended⟩ := attributeStep?_endsBeyond waits taken
    rcases step with ⟨closing', behind'⟩ | behind' | ⟨first, behind'⟩
    · rw [readAttributes?_ended taken] at read
      cases read
      exact ended closing behind rfl
    · rw [readAttributes?_passed taken] at read
      exact Nat.lt_of_lt_of_le (readAttributes?_length_skipBlanks read) ahead
    · rw [readAttributes?_attribute taken] at read
      obtain ⟨⟨others, closing', behind''⟩, rest, pair⟩ := Option.map_eq_some_iff.mp read
      cases pair
      exact Nat.lt_of_lt_of_le (readAttributes?_length_skipBlanks rest) ahead

/-- The attributes of a start tag that has not ended in a text end further on. -/
theorem readAttributes?_endsBeyond {text more behind : Text} {written : List WrittenAttribute}
    {closing : Bool} (waits : readAttributes? text = none)
    (read : readAttributes? (text ++ more) = some (written, closing, behind)) :
    behind.length < more.length := by
  fun_induction readAttributes? text generalizing written with
  | case1 text taken => exact readAttributes?_endsBeyond_step (.inl taken) read
  | case2 => cases waits
  | case3 text behind' taken _ inductionHypothesis =>
    rw [readAttributes?_passed (attributeStep?_append taken (by simp) more)] at read
    exact inductionHypothesis waits read
  | case4 text first behind' taken _ inductionHypothesis =>
    cases behind' with
    | nil => exact readAttributes?_endsBeyond_step (.inr ⟨first, taken⟩) read
    | cons c behind' =>
      rw [readAttributes?_attribute (attributeStep?_append taken (by simp) more)] at read
      obtain ⟨⟨others, closing', behind''⟩, rest, pair⟩ := Option.map_eq_some_iff.mp read
      cases pair
      exact inductionHypothesis (by simpa using waits) rest

/-! ## Markup -/

/-- What a reading takes ends in a text that comes last. -/
def Reading.EndsBeyond (more : Text) : Reading → Prop
  | .token _ behind => behind.length < more.length
  | .nothing behind => behind.length < more.length
  | .literal => True
  | .incomplete => True

/-- A reading that ends with a greater-than sign ends beyond a text without one. -/
theorem Reading.EndsIn.endsBeyond {reading : Reading} {text more : Text} (absent : '>' ∉ text)
    (ends : reading.EndsIn (text ++ more)) : reading.EndsBeyond more := by
  cases reading with
  | token _ behind => exact Text.length_lt_of_suffix absent ends
  | nothing behind => exact Text.length_lt_of_suffix absent ends
  | literal => trivial
  | incomplete => trivial

theorem readStartTag_endsBeyond {text : Text} (waits : readStartTag text = .incomplete)
    (more : Text) : (readStartTag (text ++ more)).EndsBeyond more := by
  have open' : readAttributes? (text.dropWhile isTagNameChar) = none := by
    simp only [readStartTag] at waits
    split at waits
    · assumption
    · cases waits
  simp only [readStartTag]
  split
  · trivial
  · rename_i read
    cases stop : text.dropWhile isTagNameChar with
    | nil =>
      rw [Text.dropWhile_append_of_nil stop] at read
      exact Nat.lt_of_lt_of_le (readAttributes?_length read) (dropWhile_length_le _ more)
    | cons c rest =>
      rw [Text.dropWhile_append_of_stop stop, ← List.cons_append, ← stop] at read
      exact readAttributes?_endsBeyond open' read

theorem readComment_endsBeyond {text : Text} (waits : readComment text = .incomplete)
    (more : Text) : (readComment (text ++ more)).EndsBeyond more := by
  have uncut : Text.cutAt? ['-', '-', '>'] text = none := by
    simp only [readComment] at waits
    split at waits
    · assumption
    · cases waits
  simp only [readComment]
  split
  · trivial
  · rename_i before found cut
    have beyond := Text.cutAt?_endsBeyond (by simp) uncut cut
    obtain ⟨_, rest, rfl⟩ := Text.cutAt?_spec cut
    simp only [List.length_append, List.length_cons, List.length_nil] at beyond
    simp only [Reading.EndsBeyond, List.cons_append, List.nil_append, List.drop_succ_cons,
      List.drop_zero]
    omega

/-- Behind a slash all waits for a greater-than sign. -/
theorem readEndTag_eq_incomplete_iff {text : Text} :
    readEndTag text = .incomplete ↔ '>' ∉ text := by
  by_cases generic : ∃ behind, text = '/' :: '>' :: behind
  · obtain ⟨behind, rfl⟩ := generic
    simp [readEndTag]
  · rw [readEndTag_of_ne fun behind same => generic ⟨behind, same⟩, ← Text.splitOnce_eq_none_iff]
    cases Text.splitOnce '>' text with
    | none => simp
    | some found =>
      dsimp only
      split <;> simp

/-- Markup that had to wait ends in what comes behind. -/
theorem readMarkup_endsBeyond {text : Text} (waits : readMarkup text = .incomplete)
    (more : Text) : (readMarkup (text ++ more)).EndsBeyond more := by
  have short (absent : '>' ∉ text) : (readMarkup (text ++ more)).EndsBeyond more :=
    (readMarkup_endsIn (text ++ more)).endsBeyond absent
  fun_cases readMarkup text with
  | case1 => exact short (by simp)
  | case2 rest =>
    rw [readMarkup_comment] at waits
    exact readComment_endsBeyond waits more
  | case3 => exact short (by decide)
  | case4 => exact short (by decide)
  | case5 c rest hyphens nonempty longer mark =>
    have declared : c = '!' → RulesOutComment rest := fun bang =>
      ⟨nonempty bang, longer bang, fun inside same => hyphens inside bang same⟩
    rw [readMarkup_declaration mark declared, readDeclaration] at waits
    split at waits
    · rename_i unsplit
      have absent := Text.splitOnce_eq_none_iff.mp unsplit
      refine short ?_
      rcases mark with rfl | rfl <;> simpa using absent
    · cases waits
  | case6 rest =>
    rw [readMarkup_slash] at waits
    have absent := readEndTag_eq_incomplete_iff.mp waits
    exact short (by simpa using absent)
  | case7 c rest _ _ _ _ _ letter =>
    rw [readMarkup_letter letter] at waits
    rw [List.cons_append, readMarkup_letter letter, ← List.cons_append]
    exact readStartTag_endsBeyond waits more
  | case8 c rest _ _ _ mark slash letter =>
    rw [readMarkup_literal (by simpa using letter) (by simp_all)] at waits
    cases waits

/-- Only a character that begins no markup makes a less-than sign a literal one. -/
theorem of_readMarkup_literal {c : Char} {rest : Text} (read : readMarkup (c :: rest) = .literal) :
    Text.isAsciiLetter c = false ∧ c ∉ ['!', '?', '/'] := by
  generalize whole : c :: rest = text at read
  fun_cases readMarkup text with
  | case1 => cases whole
  | case2 inside =>
    rw [readMarkup_comment, readComment] at read
    split at read <;> cases read
  | case3 => cases read
  | case4 => cases read
  | case5 c' inside hyphens nonempty longer mark =>
    have declared : c' = '!' → RulesOutComment inside := fun bang =>
      ⟨nonempty bang, longer bang, fun inside same => hyphens inside bang same⟩
    rw [readMarkup_declaration mark declared, readDeclaration] at read
    split at read <;> cases read
  | case6 inside =>
    rw [readMarkup_slash] at read
    simp only [readEndTag] at read
    split at read
    · cases read
    · split at read
      · cases read
      · split at read <;> cases read
  | case7 c' inside _ _ _ _ _ letter =>
    rw [readMarkup_letter letter, readStartTag] at read
    split at read <;> cases read
  | case8 c' inside _ _ _ mark slash letter =>
    cases whole
    exact ⟨by simpa using letter, by simp_all⟩

/-- A less-than sign of which it could not be told is literal only if nothing stood behind it. -/
theorem eq_nil_of_readMarkup_literal {text more : Text} (waits : readMarkup text = .incomplete)
    (read : readMarkup (text ++ more) = .literal) : text = [] := by
  cases text with
  | nil => rfl
  | cons c rest =>
    obtain ⟨letter, other⟩ := of_readMarkup_literal read
    rw [readMarkup_literal letter other] at waits
    cases waits

end Markup

end HtmlTemplate
