import HtmlTemplate.Text.Blank
import HtmlTemplate.Text.Letter
import Mathlib.Data.List.Basic
import Mathlib.Data.List.DropRight
import Mathlib.Data.List.TakeWhile
import Mathlib.Tactic.Common

/-!
# Cut and trimmed texts

Where a text is split, cut or trimmed, and that what stands behind it does not matter there.
-/

namespace HtmlTemplate.Text

/-! ## Characters that are kept or dropped -/

/-- Behind the place where a text first fails a condition nothing decides about that
place. -/
theorem dropWhile_append_of_stop {keep : Char → Bool} {text rest : Text} {c : Char}
    (stop : text.dropWhile keep = c :: rest) (more : Text) :
    (text ++ more).dropWhile keep = c :: (rest ++ more) := by
  rw [List.dropWhile_append, stop]
  simp

/-- What stands in front of the place where a text first fails a condition does not depend
on what stands behind. -/
theorem takeWhile_append_of_stop {keep : Char → Bool} {text rest : Text} {c : Char}
    (stop : text.dropWhile keep = c :: rest) (more : Text) :
    (text ++ more).takeWhile keep = text.takeWhile keep := by
  have lengths := congrArg List.length (List.takeWhile_append_dropWhile (p := keep) (l := text))
  rw [stop] at lengths
  simp only [List.length_append, List.length_cons] at lengths
  rw [List.takeWhile_append, if_neg (by omega)]

/-- Where a text satisfies a condition throughout, what stands behind it decides. -/
theorem dropWhile_append_of_nil {keep : Char → Bool} {text : Text}
    (all : text.dropWhile keep = []) (more : Text) :
    (text ++ more).dropWhile keep = more.dropWhile keep := by
  rw [List.dropWhile_append, all]
  rfl

/-- What satisfies a condition is taken up to the first character that does not. -/
theorem takeWhile_append_cons {keep : Char → Bool} {text : Text} {c : Char}
    (kept : ∀ d ∈ text, keep d = true) (stop : keep c = false) (rest : Text) :
    (text ++ c :: rest).takeWhile keep = text := by
  rw [List.takeWhile_append_of_pos kept]
  simp [stop]

/-- Characters are dropped up to the first that stays. -/
theorem dropWhile_append_cons {keep : Char → Bool} {text : Text} {c : Char}
    (kept : ∀ d ∈ text, keep d = true) (stop : keep c = false) (rest : Text) :
    (text ++ c :: rest).dropWhile keep = c :: rest := by
  rw [List.dropWhile_append_of_pos kept]
  simp [stop]

/-- What begins with a character that fails a condition adds nothing to the characters in
front of it that satisfy the condition. -/
theorem takeWhile_append_of_head {keep : Char → Bool} {more : Text}
    (stop : ∀ c ∈ more.head?, keep c = false) (text : Text) :
    (text ++ more).takeWhile keep = text.takeWhile keep := by
  induction text with
  | nil =>
    cases more with
    | nil => rfl
    | cons c more => simp [stop c rfl]
  | cons c text inductionHypothesis => simp [List.takeWhile_cons, inductionHypothesis]

/-- Nothing is dropped of what comes behind, if that begins with a character that stays. -/
theorem dropWhile_append_of_head {keep : Char → Bool} {more : Text}
    (stop : ∀ c ∈ more.head?, keep c = false) (text : Text) :
    (text ++ more).dropWhile keep = text.dropWhile keep ++ more := by
  induction text with
  | nil =>
    cases more with
    | nil => rfl
    | cons c more => simp [stop c rfl]
  | cons c text inductionHypothesis =>
    simp only [List.cons_append, List.dropWhile_cons, inductionHypothesis]
    split <;> rfl

/-- A text of characters that all stay is left whole. -/
theorem dropWhile_eq_self {drop : Char → Bool} {text : Text}
    (kept : ∀ c ∈ text, drop c = false) : text.dropWhile drop = text := by
  cases text with
  | nil => rfl
  | cons c rest => simp [kept c (by simp)]

/-- A text of characters that all stay is left whole at its end. -/
theorem dropEndWhile_eq_self {drop : Char → Bool} {text : Text}
    (kept : ∀ c ∈ text, drop c = false) : dropEndWhile drop text = text := by
  have reversed : ∀ c ∈ text.reverse, drop c = false := by simpa using kept
  rw [dropEndWhile, dropWhile_eq_self reversed, List.reverse_reverse]

/-- Nothing is dropped in front of a character that is kept. -/
theorem dropEndWhile_append_cons {drop : Char → Bool} {c : Char} (kept : drop c = false)
    (front text : Text) :
    dropEndWhile drop (front ++ c :: text) = front ++ c :: dropEndWhile drop text := by
  have stop : ∀ d ∈ (c :: front.reverse).head?, drop d = false := by simpa using kept
  simp [dropEndWhile, List.append_assoc, dropWhile_append_of_head stop]

/-! ## Trimmed texts -/

/-- Trimming takes away what it is to drop at either end, and nothing else. -/
theorem exists_of_trimWhile (drop : Char → Bool) (text : Text) :
    ∃ front back, text = front ++ trimWhile drop text ++ back ∧
      ∀ c ∈ front ++ back, drop c = true := by
  have front := List.takeWhile_append_dropWhile (p := drop) (l := text)
  have back := List.rdropWhile_append_rtakeWhile (p := drop) (l := text.dropWhile drop)
  refine ⟨text.takeWhile drop, (text.dropWhile drop).rtakeWhile drop, ?_, fun c member => ?_⟩
  · exact front.symm.trans (by rw [List.append_assoc]; exact congrArg _ back.symm)
  · rw [List.mem_append] at member
    exact member.elim List.mem_takeWhile_imp List.mem_rtakeWhile_imp

/-- What is trimmed begins and ends with characters that are kept. -/
theorem ends_trimWhile (drop : Char → Bool) (text : Text) :
    (∀ c ∈ (trimWhile drop text).head?, drop c = false) ∧
      ∀ c ∈ (trimWhile drop text).getLast?, drop c = false := by
  constructor
  · intro c first
    obtain ⟨rest, whole⟩ : trimWhile drop text <+: text.dropWhile drop := List.rdropWhile_prefix _ _
    have head : (text.dropWhile drop).head? = some c := by
      rw [← whole, List.head?_append, Option.mem_def.mp first]
      rfl
    have kept := List.head?_dropWhile_not drop text
    rwa [head] at kept
  · intro c last
    obtain ⟨nonempty, rfl⟩ := List.mem_getLast?_eq_getLast last
    exact Bool.eq_false_iff.mpr (List.rdropWhile_last_not _ _ nonempty)

/-- Trimming takes everything away in front of a kept character, and behind one. -/
theorem trimWhile_append {drop : Char → Bool} {front text back : Text}
    (dropped : ∀ c ∈ front ++ back, drop c = true)
    (first : ∀ c ∈ text.head?, drop c = false) (last : ∀ c ∈ text.getLast?, drop c = false) :
    trimWhile drop (front ++ text ++ back) = text := by
  rw [List.forall_mem_append] at dropped
  have strippedEnd : dropEndWhile drop (text ++ back) = text := by
    have stripped : text.rdropWhile drop = text := by
      rw [List.rdropWhile_eq_self_iff]
      intro nonempty
      rw [last _ (List.getLast?_eq_some_getLast nonempty)]
      exact Bool.false_ne_true
    rw [dropEndWhile, List.reverse_append,
      List.dropWhile_append_of_pos fun c member => dropped.2 c (List.mem_reverse.mp member)]
    exact stripped
  rw [trimWhile, List.append_assoc, List.dropWhile_append_of_pos dropped.1]
  cases text with
  | nil =>
    rw [List.nil_append, List.dropWhile_eq_nil_iff.mpr dropped.2]
    rfl
  | cons c text =>
    rw [List.cons_append, List.dropWhile_cons_of_neg (by simp [first c rfl])]
    exact strippedEnd

/-! ## The first occurrence of a mark -/

/-- A text splits at a mark exactly where the mark first occurs in it. -/
theorem splitOnce_eq_some_iff {mark : Char} {text before after : Text} :
    splitOnce mark text = some (before, after) ↔
      text = before ++ mark :: after ∧ mark ∉ before := by
  induction text generalizing before with
  | nil => simp [splitOnce]
  | cons c rest inductionHypothesis =>
    by_cases marked : c = mark
    · subst marked
      rw [splitOnce, if_pos rfl]
      cases before with
      | nil => simp
      | cons d before =>
        simp only [Option.some.injEq, Prod.mk.injEq, List.cons_append, List.cons.injEq,
          List.mem_cons, not_or]
        constructor
        · rintro ⟨impossible, _⟩
          cases impossible
        · rintro ⟨⟨same, _⟩, different, _⟩
          exact absurd same different
    · rw [splitOnce, if_neg marked, Option.map_eq_some_iff]
      constructor
      · rintro ⟨⟨front, back⟩, found, pair⟩
        obtain ⟨rfl, rfl⟩ := Prod.mk.inj pair
        obtain ⟨rfl, absent⟩ := inductionHypothesis.mp found
        exact ⟨rfl, by simp [absent, Ne.symm marked]⟩
      · rintro ⟨equal, absent⟩
        cases before with
        | nil => exact absurd (List.cons.inj equal).1 marked
        | cons d before =>
          obtain ⟨rfl, rfl⟩ := List.cons.inj equal
          have found := inductionHypothesis.mpr ⟨rfl, fun member =>
            absent (List.mem_cons_of_mem _ member)⟩
          exact ⟨(before, after), found, rfl⟩

/-- Without an occurrence of a mark a text is not split, and the other way round. -/
theorem splitOnce_eq_none_iff {mark : Char} {text : Text} :
    splitOnce mark text = none ↔ mark ∉ text := by
  induction text with
  | nil => simp [splitOnce]
  | cons c rest inductionHypothesis =>
    by_cases same : c = mark
    · simp [splitOnce, same]
    · simp [splitOnce, same, Ne.symm same, inductionHypothesis]

/-- The first occurrence of a mark does not depend on what stands behind. -/
theorem splitOnce_append {mark : Char} {text before after : Text}
    (split : splitOnce mark text = some (before, after)) (more : Text) :
    splitOnce mark (text ++ more) = some (before, after ++ more) := by
  obtain ⟨rfl, absent⟩ := splitOnce_eq_some_iff.mp split
  exact splitOnce_eq_some_iff.mpr ⟨by simp, absent⟩

/-- What stands behind a mark is an end of the text, and so it is with the mark. -/
theorem splitOnce_suffix {mark : Char} {text before after : Text}
    (split : splitOnce mark text = some (before, after)) : mark :: after <:+ text := by
  obtain ⟨rfl, _⟩ := splitOnce_eq_some_iff.mp split
  exact List.suffix_append before _

/-- A character is a mark that texts are split at, or it is in one of the pieces. -/
theorem eq_or_exists_mem_splitOn {mark c : Char} {text : Text} (member : c ∈ text) :
    c = mark ∨ ∃ piece ∈ splitOn mark text, c ∈ piece := by
  induction text with
  | nil => cases member
  | cons d rest inductionHypothesis =>
    by_cases marked : d = mark
    · simp only [splitOn, if_pos marked]
      rcases List.mem_cons.mp member with rfl | member
      · exact .inl marked
      · exact (inductionHypothesis member).imp_right fun ⟨piece, among, within⟩ =>
          ⟨piece, List.mem_cons_of_mem [] among, within⟩
    · simp only [splitOn, if_neg marked]
      split
      · rename_i empty
        rw [empty] at inductionHypothesis
        rcases List.mem_cons.mp member with rfl | member
        · exact .inr ⟨[c], by simp, by simp⟩
        · exact (inductionHypothesis member).imp_right fun ⟨_, among, _⟩ => by cases among
      · rename_i piece pieces found
        rw [found] at inductionHypothesis
        rcases List.mem_cons.mp member with rfl | member
        · exact .inr ⟨c :: piece, by simp, by simp⟩
        · refine (inductionHypothesis member).imp_right fun ⟨other, among, within⟩ => ?_
          rcases List.mem_cons.mp among with rfl | among
          · exact ⟨d :: other, by simp, List.mem_cons_of_mem d within⟩
          · exact ⟨other, List.mem_cons_of_mem _ among, within⟩

/-! ## Beginnings -/

/-- A text begins with another one exactly if the rest can be found. -/
theorem dropPrefix?_eq_some_iff {front text rest : Text} :
    dropPrefix? front text = some rest ↔ text = front ++ rest := by
  induction front generalizing text with
  | nil => simp [dropPrefix?]
  | cons c front inductionHypothesis =>
    cases text with
    | nil => simp [dropPrefix?]
    | cons d text =>
      rw [dropPrefix?]
      split
      · rename_i same
        simp [inductionHypothesis, same]
      · rename_i other
        simp [Ne.symm other]

/-- A mark at the end does not matter for a beginning without that mark. -/
theorem dropPrefix?_append_singleton {front : Text} {mark : Char} (absent : mark ∉ front)
    (text : Text) :
    dropPrefix? front (text ++ [mark]) = (dropPrefix? front text).map (· ++ [mark]) := by
  induction front generalizing text with
  | nil => rfl
  | cons c front inductionHypothesis =>
    simp only [List.mem_cons, not_or] at absent
    cases text with
    | nil => simp [dropPrefix?, Ne.symm absent.1]
    | cons d text =>
      simp only [List.cons_append, dropPrefix?, inductionHypothesis absent.2]
      split <;> rfl

/-- What does not hold a mark and begins a text with the mark in it begins in front of the
mark. -/
theorem begins_front_of_mark {needle front rest : Text} {mark : Char} (absent : mark ∉ needle)
    (begins : needle <+: front ++ mark :: rest) : needle <+: front := by
  rcases Nat.lt_or_ge front.length needle.length with longer | shorter
  · have long : (front ++ [mark]).length ≤ needle.length := by
      rw [List.length_append]
      exact longer
    have marked : front ++ [mark] <+: needle :=
      List.prefix_of_prefix_length_le ⟨rest, by simp⟩ begins long
    exact absurd (marked.subset (by simp)) absent
  · exact List.prefix_of_prefix_length_le begins (List.prefix_append front _) shorter

/-! ## The first occurrence of a needle -/

/-- Where a text has the needle for a beginning, it has it in front of further text, and
where it does not although it is long enough, it does not there either. -/
theorem isPrefixOf_append {needle text : Text} (long : needle.length ≤ text.length)
    (more : Text) : needle.isPrefixOf (text ++ more) = needle.isPrefixOf text := by
  rw [Bool.eq_iff_iff, List.isPrefixOf_iff_prefix, List.isPrefixOf_iff_prefix]
  constructor
  · intro begins
    exact List.prefix_of_prefix_length_le begins (List.prefix_append text more) long
  · intro begins
    exact begins.trans (List.prefix_append text more)

/-- A text is cut into two parts of which the second begins with the needle. -/
theorem cutAt?_spec {needle text before found : Text}
    (cut : cutAt? needle text = some (before, found)) :
    text = before ++ found ∧ needle <+: found := by
  induction text generalizing before with
  | nil =>
    simp only [cutAt?] at cut
    split at cut
    · rename_i empty
      obtain ⟨rfl, rfl⟩ := Prod.mk.inj (Option.some.inj cut)
      exact ⟨rfl, by simpa using empty⟩
    · cases cut
  | cons c rest inductionHypothesis =>
    simp only [cutAt?] at cut
    split at cut
    · rename_i begins
      obtain ⟨rfl, rfl⟩ := Prod.mk.inj (Option.some.inj cut)
      exact ⟨rfl, List.isPrefixOf_iff_prefix.mp begins⟩
    · obtain ⟨⟨front, back⟩, later, pair⟩ := Option.map_eq_some_iff.mp cut
      obtain ⟨rfl, rfl⟩ := Prod.mk.inj pair
      obtain ⟨rfl, begins⟩ := inductionHypothesis later
      exact ⟨rfl, begins⟩

/-- The first occurrence of a needle does not depend on what stands behind. -/
theorem cutAt?_append {needle text before found : Text}
    (cut : cutAt? needle text = some (before, found)) (more : Text) :
    cutAt? needle (text ++ more) = some (before, found ++ more) := by
  induction text generalizing before with
  | nil =>
    obtain ⟨parts, begins⟩ := cutAt?_spec cut
    obtain ⟨rfl, rfl⟩ := List.append_eq_nil_iff.mp parts.symm
    obtain rfl := List.prefix_nil.mp begins
    cases more <;> simp [cutAt?]
  | cons c rest inductionHypothesis =>
    have long : needle.length ≤ (c :: rest).length := by
      obtain ⟨parts, begins⟩ := cutAt?_spec cut
      rw [parts, List.length_append]
      exact Nat.le_add_left_of_le begins.length_le
    have same := isPrefixOf_append long more
    simp only [cutAt?] at cut
    simp only [List.cons_append] at same
    simp only [List.cons_append, cutAt?, same]
    split at cut
    · rename_i begins
      obtain ⟨rfl, rfl⟩ := Prod.mk.inj (Option.some.inj cut)
      simp [begins]
    · rename_i other
      obtain ⟨⟨front, back⟩, later, pair⟩ := Option.map_eq_some_iff.mp cut
      obtain ⟨rfl, rfl⟩ := Prod.mk.inj pair
      rw [if_neg other, inductionHypothesis later]
      rfl

/-- What is looked for behind a line feed is looked for at the beginning of the next line, and then
behind it. -/
theorem cutAt?_line {line : Text} (single : '\n' ∉ line) (needle rest : Text) :
    cutAt? ('\n' :: needle) (line ++ '\n' :: rest) =
      if needle.isPrefixOf rest then some (line, '\n' :: rest)
      else (cutAt? ('\n' :: needle) rest).map fun (before, found) =>
        (line ++ '\n' :: before, found) := by
  induction line with
  | nil => simp [cutAt?]
  | cons c line inductionHypothesis =>
    simp only [List.mem_cons, not_or] at single
    have other : ¬ ('\n' :: needle).isPrefixOf (c :: (line ++ '\n' :: rest)) = true := by
      simp [List.isPrefixOf, single.1]
    rw [List.cons_append, cutAt?, if_neg other, inductionHypothesis single.2]
    split
    · rfl
    · cases cutAt? ('\n' :: needle) rest <;> rfl

/-- A separator stands between two texts that are joined. -/
theorem join_cons_cons (separator text next : Text) (more : List Text) :
    join separator (text :: next :: more) = text ++ (separator ++ join separator (next :: more)) :=
  List.append_assoc ..

/-- Texts are joined as lists are, with the separator between each two of them. -/
theorem join_eq_intercalate (separator : Text) (texts : List Text) :
    join separator texts = List.intercalate separator texts := by
  induction texts with
  | nil => rfl
  | cons text more inductionHypothesis =>
    cases more with
    | nil => simp [join]
    | cons next more =>
      rw [join_cons_cons, inductionHypothesis, List.intercalate_cons_cons, List.append_assoc]

/-! ## Blanks -/

/-- A code point that is found in a table lies in one of its ranges. -/
theorem RangeTable.exists_of_containsCode {table : RangeTable} {code : Nat}
    (found : table.containsCode code = true) :
    ∃ range ∈ table, range.1 ≤ code ∧ code ≤ range.2 := by
  induction table with
  | nil => cases found
  | cons range table inductionHypothesis =>
    obtain ⟨first, last⟩ := range
    simp only [RangeTable.containsCode] at found
    split at found
    · cases found
    · split at found
      · exact ⟨(first, last), by simp, by omega, by assumption⟩
      · obtain ⟨range, member, bounds⟩ := inductionHypothesis found
        exact ⟨range, List.mem_cons_of_mem _ member, bounds⟩

/-- A property that no blank has, one after the other, is a property of other characters. -/
theorem isBlank_of_forall {property : Char → Bool}
    (apart : ∀ range ∈ blankTable, ∀ more ≤ range.2 - range.1,
      property (Char.ofNat (range.1 + more)) = false)
    {c : Char} (holds : property c = true) : isBlank c = false := by
  rw [Bool.eq_false_iff]
  intro blank
  obtain ⟨range, member, low, high⟩ := RangeTable.exists_of_containsCode blank
  have lacks := apart range member (c.toNat - range.1) (by omega)
  rw [Nat.add_sub_cancel' low, Char.ofNat_toNat, holds] at lacks
  cases lacks

/-- No word character is a blank. -/
theorem isBlank_of_isWordChar {c : Char} (word : isWordChar c = true) :
    isBlank c = false :=
  isBlank_of_forall (by decide +kernel) word

/-- What holds no blanks is left as it is when it is trimmed. -/
theorem trim_eq_self {text : Text} (visible : ∀ c ∈ text, isBlank c = false) :
    trim text = text := by
  rw [trim, trimWhile, dropWhile_eq_self visible, dropEndWhile_eq_self visible]

/-- Trimming takes blanks away from either end, and nothing else. -/
theorem exists_of_trim (text : Text) :
    ∃ front back, text = front ++ trim text ++ back ∧
      ∀ c ∈ front ++ back, isBlank c = true :=
  exists_of_trimWhile isBlank text

/-- A text without the blanks around it is no longer than before. -/
theorem length_trim_le (text : Text) : (trim text).length ≤ text.length := by
  obtain ⟨front, back, parts, _⟩ := exists_of_trim text
  have lengths := congrArg List.length parts
  simp only [List.length_append] at lengths
  omega

/-- What begins visibly begins so when it is trimmed. -/
theorem trim_cons {c : Char} (visible : isBlank c = false) (rest : Text) :
    ∃ trimmed, trim (c :: rest) = c :: trimmed := by
  simp only [trim, trimWhile, dropEndWhile, List.dropWhile_cons, visible,
    Bool.false_eq_true, if_false, List.reverse_cons, List.dropWhile_append, List.dropWhile_nil]
  split
  · exact ⟨[], rfl⟩
  · exact ⟨(rest.reverse.dropWhile isBlank).reverse, by simp⟩

end HtmlTemplate.Text
