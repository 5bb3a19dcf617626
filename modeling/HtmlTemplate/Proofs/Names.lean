import HtmlTemplate.Markup.Tag
import HtmlTemplate.Proofs.Texts
import HtmlTemplate.Resolve.Name

/-!
# Valid names in markup

No character of a valid name ends a name where markup is read: names hold no blanks and
none of the signs that markup is made of.
-/

namespace HtmlTemplate

namespace Resolve

/-! ## Names of elements -/

/-- What a valid name of an element is made of. -/
theorem of_isTagName {name : Text} (valid : isTagName name = true) :
    name ≠ [] ∧ ∀ c ∈ name, Text.isWordChar c = true ∨ c = '-' := by
  simp only [isTagName, Bool.and_eq_true, Bool.not_eq_true', List.isEmpty_eq_false_iff,
    List.all_eq_true, Bool.or_eq_true, decide_eq_true_eq] at valid
  exact ⟨valid.1.1.1, valid.1.1.2⟩

/-- A sign that is no word character stands in no valid name of an element. -/
theorem not_mem_of_isTagName {name : Text} (mark : Char) (valid : isTagName name = true)
    (foreign : Text.isWordChar mark = false) (other : mark ≠ '-') : mark ∉ name := by
  intro member
  rcases (of_isTagName valid).2 mark member with word | hyphen
  · rw [foreign] at word
    cases word
  · exact other hyphen

/-- The signs that markup is made of stand in no valid name of an element. -/
theorem not_mem_sign_of_isTagName {name : Text} (valid : isTagName name = true) :
    ∀ mark ∈ ['<', '>', '/', '$', '&'], mark ∉ name := by
  have foreign : ['<', '>', '/', '$', '&'].all
      (fun mark => !Text.isWordChar mark && mark ≠ '-') = true := by
    decide
  intro mark sign
  have apart := List.all_eq_true.mp foreign mark sign
  simp only [Bool.and_eq_true, Bool.not_eq_true', decide_eq_true_eq] at apart
  exact not_mem_of_isTagName mark valid apart.1 apart.2

theorem isBlank_of_mem_tagName {name : Text} (valid : isTagName name = true) :
    ∀ c ∈ name, Text.isBlank c = false := by
  intro c member
  rcases (of_isTagName valid).2 c member with word | rfl
  · exact Text.isBlank_of_isWordChar word
  · decide

/-- A valid name of an element is read to its end. -/
theorem isTagNameChar_of_mem {name : Text} (valid : isTagName name = true) :
    ∀ c ∈ name, Markup.isTagNameChar c = true := by
  intro c member
  have sign := not_mem_sign_of_isTagName valid
  have slash : c ≠ '/' := fun same => sign '/' (by decide) (same ▸ member)
  have greater : c ≠ '>' := fun same => sign '>' (by decide) (same ▸ member)
  simp [Markup.isTagNameChar, isBlank_of_mem_tagName valid c member, slash, greater]

/-! ## Names of attributes -/

/-- A character of a valid name of an attribute continues such a name. -/
theorem continuesAttributeName_of_mem {name : Text} (valid : isAttributeName name = true) :
    ∀ c ∈ name, continuesAttributeName c = true := by
  cases name with
  | nil => cases valid
  | cons first rest =>
    simp only [isAttributeName, Bool.and_eq_true, List.all_eq_true] at valid
    intro c member
    rcases List.mem_cons.mp member with rfl | member
    · have begins := valid.1
      simp only [beginsAttributeName, Bool.or_eq_true, decide_eq_true_eq] at begins
      simp only [continuesAttributeName, Bool.or_eq_true, decide_eq_true_eq]
      tauto
    · exact valid.2 c member

theorem isAttributeName_ne_nil {name : Text} (valid : isAttributeName name = true) :
    name ≠ [] := by
  rintro rfl
  cases valid

/-- A character that cannot continue a name of an attribute stands in no valid one. -/
theorem not_mem_of_isAttributeName {name : Text} (mark : Char)
    (valid : isAttributeName name = true) (foreign : continuesAttributeName mark = false) :
    mark ∉ name := by
  intro member
  have continues := continuesAttributeName_of_mem valid mark member
  rw [foreign] at continues
  cases continues

/-- A valid name of an attribute is read to its end. -/
theorem isAttributeNameChar_of_mem {name : Text} (valid : isAttributeName name = true) :
    ∀ c ∈ name, Markup.isAttributeNameChar c = true := by
  intro c member
  have continues := continuesAttributeName_of_mem valid c member
  have blank : Text.isBlank c = false := Text.isBlank_of_forall (by decide) continues
  have sign (mark : Char) (foreign : continuesAttributeName mark = false) : c ≠ mark :=
    fun same => not_mem_of_isAttributeName mark valid foreign (same ▸ member)
  simp [Markup.isAttributeNameChar, blank, sign '=' (by decide), sign '>' (by decide),
    sign '/' (by decide)]

end Resolve

end HtmlTemplate
