import HtmlTemplate.Text.Basic

/-!
# Character references

A reference stands for one character: an ampersand, a name and a semicolon. The name
is one of six words, or a number sign and the number of the character.
-/

namespace HtmlTemplate.Markup

/-- The greatest number that a numeric reference may have. -/
def referenceLimit : Nat := 0xFFFFFFFF

/-- The greatest number of characters between the ampersand and the semicolon. -/
def referenceLength : Nat := 10

/-- The character a numeric reference stands for. A number that belongs to no
character, and zero, give the replacement character. -/
def referenceChar (code : Nat) : Char :=
  if code.isValidChar ∧ code ≠ 0 then Char.ofNat code else '\uFFFD'

/-- The character a name stands for. -/
def namedReference? (name : Text) : Option Char :=
  if name = ['a', 'm', 'p'] then some '&'
  else if name = ['l', 't'] then some '<'
  else if name = ['g', 't'] then some '>'
  else if name = ['q', 'u', 'o', 't'] then some '\"'
  else if name = ['a', 'p', 'o', 's'] then some '\''
  else if name = ['n', 'b', 's', 'p'] then some '\u00A0'
  else none

/-- The number behind a number sign: in base sixteen behind a letter `x`, else in
base ten. -/
def numericReference? : Text → Option Nat
  | 'x' :: digits => Text.toNatUpTo? referenceLimit 16 digits
  | 'X' :: digits => Text.toNatUpTo? referenceLimit 16 digits
  | digits => Text.toNatUpTo? referenceLimit 10 digits

/-- The character between an ampersand and a semicolon. -/
def reference? : Text → Option Char
  | '#' :: number => (numericReference? number).map referenceChar
  | name => namedReference? name

/-- The character of the reference whose ampersand has just been read, and the text
behind its semicolon. -/
def takeReference? (text : Text) : Option (Char × Text) :=
  match Text.splitOnce ';' (text.take (referenceLength + 1)) with
  | none => none
  | some (name, _) =>
    (reference? name).map fun c => (c, text.drop (name.length + 1))

/-- What is left behind a reference is not longer than what stood behind its
ampersand. -/
theorem takeReference?_length {text rest : Text} {c : Char}
    (taken : takeReference? text = some (c, rest)) : rest.length ≤ text.length := by
  simp only [takeReference?] at taken
  split at taken
  · simp at taken
  · obtain ⟨_, _, pair⟩ := Option.map_eq_some_iff.mp taken
    obtain ⟨_, rfl⟩ := Prod.mk.inj pair
    simp

/-- A text with every character reference replaced by its character. An ampersand that
begins none stays. -/
def decodeReferences (text : Text) : Text :=
  match text with
  | [] => []
  | c :: rest =>
    if c = '&' then
      match taken : takeReference? rest with
      | some (decoded, behind) =>
        have := takeReference?_length taken
        decoded :: decodeReferences behind
      | none => '&' :: decodeReferences rest
    else c :: decodeReferences rest
termination_by text.length
decreasing_by all_goals (simp only [List.length_cons]; omega)

end HtmlTemplate.Markup
