import HtmlTemplate.Proofs.Markers
import HtmlTemplate.Proofs.References

/-!
# Literal text

Literal text is protected first, its references are decoded next, and what comes of that is
split at markers. `Transparent` texts come through as their decoding. A text without references
to dollar signs does (`transparent_of_no_dollar`), while such a reference is decoded too late to
be protected. What is lost then shows in the length of the text (`Transparent.of_length_le`).
-/

namespace HtmlTemplate.Skeleton

open Markup (decodeReferences reference? referenceLength takeReference?)

/-- Literal text as it stands in a skeleton: protected, and then decoded. -/
def builtText (text : Text) : Text :=
  decodeReferences (protect text)

/-- A literal text that comes through as its decoding: no marker is found in it, and its
dollar signs are restored. -/
structure Transparent (text : Text) : Prop where
  unmarked : markers (builtText text) = []
  restored : restore (builtText text) = decodeReferences text

instance (text : Text) : Decidable (Transparent text) :=
  decidable_of_iff
    (markers (builtText text) = [] ∧ restore (builtText text) = decodeReferences text)
    ⟨fun ⟨unmarked, restored⟩ => ⟨unmarked, restored⟩,
      fun ⟨unmarked, restored⟩ => ⟨unmarked, restored⟩⟩

/-- Whatever the markers are replaced by, a transparent text gives its decoding. -/
theorem Transparent.substitute {text : Text} (transparent : Transparent text)
    (replace : Nat → Text) :
    substitute replace (builtText text) = decodeReferences text := by
  rw [substitute_of_unmarked replace transparent.unmarked, transparent.restored]

/-! ## References in protected text -/

/-- Protecting changes nothing up to the first dollar sign. -/
theorem exists_of_protect_eq_append {text front behind : Text} {c : Char}
    (split : protect text = front ++ c :: behind) (single : '$' ∉ front) (other : c ≠ '$') :
    ∃ rest, text = front ++ c :: rest := by
  induction front generalizing text with
  | nil =>
    cases text with
    | nil => cases split
    | cons d rest =>
      by_cases dollar : d = '$'
      · subst dollar
        rw [protect_dollar] at split
        exact absurd (List.cons.inj split).1.symm other
      · rw [protect_cons dollar] at split
        obtain ⟨rfl, _⟩ := List.cons.inj split
        exact ⟨rest, rfl⟩
  | cons first front inductionHypothesis =>
    simp only [List.mem_cons, not_or] at single
    cases text with
    | nil => cases split
    | cons d rest =>
      by_cases dollar : d = '$'
      · subst dollar
        rw [protect_dollar] at split
        exact absurd (List.cons.inj split).1 single.1
      · rw [protect_cons dollar] at split
        obtain ⟨rfl, tail⟩ := List.cons.inj split
        obtain ⟨more, rfl⟩ := inductionHypothesis tail single.2
        exact ⟨more, rfl⟩

/-- Where no reference begins, none does in protected text. -/
theorem takeReference?_protect_eq_none {text : Text} (alone : takeReference? text = none) :
    takeReference? (protect text) = none := by
  rw [Option.eq_none_iff_forall_not_mem]
  rintro ⟨c, behind⟩ taken
  obtain ⟨name, split, short, valid⟩ := Markup.takeReference?_eq_some_iff.mp taken
  have single : '$' ∉ name := Markup.not_mem_of_reference? '$' valid (by decide)
  obtain ⟨rest, rfl⟩ := exists_of_protect_eq_append split single (by decide)
  rw [Markup.takeReference?_eq_some_iff.mpr ⟨name, rfl, short, valid⟩] at alone
  cases alone

theorem builtText_nil : builtText [] = [] := by
  rw [builtText, protect_nil, Markup.decodeReferences_nil]

/-- A reference stays as it is in protected text. -/
theorem builtText_reference {name : Text} {c : Char} (valid : reference? name = some c)
    (short : name.length ≤ referenceLength) (rest : Text) :
    builtText ('&' :: (name ++ ';' :: rest)) = c :: builtText rest := by
  have single : '$' ∉ name := Markup.not_mem_of_reference? '$' valid (by decide)
  rw [builtText, protect_cons (by decide), protect_append, protect_eq_self single,
    protect_cons (by decide), Markup.decodeReferences_reference valid short]
  rfl

theorem builtText_ampersand {rest : Text} (alone : takeReference? rest = none) :
    builtText ('&' :: rest) = '&' :: builtText rest := by
  rw [builtText, protect_cons (by decide),
    Markup.decodeReferences_ampersand (takeReference?_protect_eq_none alone)]
  rfl

theorem builtText_dollar (rest : Text) :
    builtText ('$' :: rest) = '$' :: '$' :: builtText rest := by
  rw [builtText, protect_dollar, Markup.decodeReferences_cons (by decide),
    Markup.decodeReferences_cons (by decide)]
  rfl

theorem builtText_cons {c : Char} (dollar : c ≠ '$') (ampersand : c ≠ '&') (rest : Text) :
    builtText (c :: rest) = c :: builtText rest := by
  rw [builtText, protect_cons dollar, Markup.decodeReferences_cons ampersand]
  rfl

/-! ## Texts without references to dollar signs -/

/-- If no reference stands for a dollar sign, protecting and decoding can change places. -/
theorem builtText_of_no_dollar {text : Text}
    (noDollar : ∀ front name behind, text = front ++ '&' :: (name ++ ';' :: behind) →
      reference? name ≠ some '$') :
    builtText text = protect (decodeReferences text) := by
  fun_induction decodeReferences text with
  | case1 => exact builtText_nil
  | case2 rest decoded behind taken _ inductionHypothesis =>
    obtain ⟨name, rfl, short, valid⟩ := Markup.takeReference?_eq_some_iff.mp taken
    have other : decoded ≠ '$' := by
      rintro rfl
      exact noDollar [] name behind rfl valid
    rw [builtText_reference valid short, protect_cons other, inductionHypothesis]
    rintro front name' behind' rfl
    exact noDollar ('&' :: (name ++ ';' :: front)) name' behind' (by simp)
  | case3 rest alone inductionHypothesis =>
    rw [builtText_ampersand alone, protect_cons (by decide), inductionHypothesis]
    rintro front name behind rfl
    exact noDollar ('&' :: front) name behind (by simp)
  | case4 c rest other inductionHypothesis =>
    have later := inductionHypothesis fun front name behind same =>
      noDollar (c :: front) name behind (by simp [same])
    by_cases dollar : c = '$'
    · subst dollar
      rw [builtText_dollar, protect_dollar, later]
    · rw [builtText_cons dollar other, protect_cons dollar, later]

/-- A text in which no reference stands for a dollar sign is transparent, whatever dollar signs
and markers it spells out. -/
theorem transparent_of_no_dollar {text : Text}
    (noDollar : ∀ front name behind, text = front ++ '&' :: (name ++ ';' :: behind) →
      reference? name ≠ some '$') : Transparent text := by
  have built := builtText_of_no_dollar noDollar
  constructor
  · rw [built]
    by_cases empty : decodeReferences text = []
    · simp [empty, markers, split_nil]
    · simp [markers, split_protect empty, Segment.indices]
  · rw [built, restore_protect]

/-! ## What is lost -/

/-- A text, and the same text with some of its dollar signs doubled. -/
inductive Doubles : Text → Text → Prop where
  | nil : Doubles [] []
  | keep (c : Char) {doubled text : Text} (rest : Doubles doubled text) :
      Doubles (c :: doubled) (c :: text)
  | double {doubled text : Text} (rest : Doubles doubled text) :
      Doubles ('$' :: '$' :: doubled) ('$' :: text)

/-- Protected text is decoded to its decoding with the written dollar signs doubled. -/
theorem doubles_builtText (text : Text) : Doubles (builtText text) (decodeReferences text) := by
  fun_induction decodeReferences text with
  | case1 =>
    rw [builtText_nil]
    exact .nil
  | case2 rest decoded behind taken _ inductionHypothesis =>
    obtain ⟨name, rfl, short, valid⟩ := Markup.takeReference?_eq_some_iff.mp taken
    rw [builtText_reference valid short]
    exact .keep decoded inductionHypothesis
  | case3 rest alone inductionHypothesis =>
    rw [builtText_ampersand alone]
    exact .keep '&' inductionHypothesis
  | case4 c rest other inductionHypothesis =>
    by_cases dollar : c = '$'
    · subst dollar
      rw [builtText_dollar]
      exact .double inductionHypothesis
    · rw [builtText_cons dollar other]
      exact .keep c inductionHypothesis

/-- Restoring can only lose dollar signs, where single ones stand side by side. -/
theorem restore_sublist {doubled text : Text} (doubles : Doubles doubled text) :
    (restore doubled).Sublist text := by
  fun_induction restore doubled generalizing text with
  | case1 rest inductionHypothesis =>
    cases doubles with
    | double doubles => exact (inductionHypothesis doubles).cons_cons '$'
    | keep _ doubles =>
      cases doubles with
      | keep _ doubles => exact ((inductionHypothesis doubles).cons '$').cons_cons '$'
      | double doubles => exact (inductionHypothesis (.keep '$' doubles)).cons_cons '$'
  | case2 c rest apart inductionHypothesis =>
    cases doubles with
    | keep _ doubles => exact (inductionHypothesis doubles).cons_cons c
    | double => exact absurd rfl (apart _ rfl)
  | case3 => exact List.nil_sublist text

/-- A text that comes through with all its characters, although its markers are left out, is
transparent. -/
theorem Transparent.of_length_le {text : Text}
    (long : (decodeReferences text).length ≤
      (Skeleton.substitute (fun _ => []) (builtText text)).length) : Transparent text := by
  have kept := length_substitute_le (builtText text)
  have sublist := restore_sublist (doubles_builtText text)
  have short := sublist.length_le
  constructor
  · rw [← List.length_eq_zero_iff]
    omega
  · exact sublist.eq_of_length_le (by omega)

theorem length_substitute_builtText_le (text : Text) :
    (substitute (fun _ => []) (builtText text)).length ≤ (decodeReferences text).length := by
  have kept := length_substitute_le (builtText text)
  have short := (restore_sublist (doubles_builtText text)).length_le
  omega

end HtmlTemplate.Skeleton
