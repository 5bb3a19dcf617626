import HtmlTemplate.Text.Lowercase
import Mathlib.Tactic.Common

/-!
# Small letters

A text in small letters stays as it is when it is written in small letters again, and a letter
at its beginning stays one.
-/

namespace HtmlTemplate.Text

/-- A character that stays as it is in every text that is written in small letters. -/
structure IsSmall (c : Char) : Prop where
  fixed : smallLetter c = c
  notSigma : c ≠ '\u03A3'
  notDotted : c ≠ '\u0130'

/-- The code of the small letter of the last capital of a run. -/
def CaseRun.lastSmall (run : CaseRun) : Nat :=
  run.small + (run.last - run.first)

/-- No small letter of one run is a capital of another: they lie apart, or they take turns. -/
def CaseRun.misses (run other : CaseRun) : Bool :=
  other.last.blt run.small || run.lastSmall.blt other.first ||
    (other.step = 2 && (run.step = 2 || run.lastSmall = run.small) &&
      (run.small + other.first) % 2 = 1)

/-- No small letter of a run in the table is a capital of another. -/
theorem misses_of_mem : ∀ run ∈ smallLetterRuns, ∀ other ∈ smallLetterRuns, run.misses other := by
  have all : smallLetterRuns.all (fun run => smallLetterRuns.all run.misses) = true := by
    decide +kernel
  simpa only [List.all_eq_true] using all

/-- All small letters are characters, and none of them is the capital that becomes two. -/
theorem lastSmall_of_mem : ∀ run ∈ smallLetterRuns,
    (run.lastSmall < 0xD800 ∨ 0xDFFF < run.small ∧ run.lastSmall < 0x110000) ∧
      (run.lastSmall < 0x130 ∨ 0x130 < run.small) := by
  decide +kernel

/-- A small letter of one run has no small letter in another. -/
theorem CaseRun.small?_of_misses {run other : CaseRun} (misses : run.misses other = true)
    {more : Nat} (within : more ≤ run.last - run.first) (stepped : more % run.step = 0) :
    other.small? (run.small + more) = none := by
  simp only [CaseRun.misses, Nat.blt_eq, Bool.or_eq_true, Bool.and_eq_true, decide_eq_true_eq] at misses
  simp only [CaseRun.lastSmall] at misses
  rw [CaseRun.small?, if_neg]
  rintro ⟨low, high, capital⟩
  rcases misses with (before | behind) | ⟨⟨twice, turns⟩, odd⟩
  · omega
  · omega
  · rw [twice] at capital
    rcases turns with twice' | single
    · rw [twice'] at stepped
      omega
    · omega

/-- The code of a small letter is that of its run and its place there. -/
theorem toNat_ofNat_small {run : CaseRun} (member : run ∈ smallLetterRuns) {more : Nat}
    (within : more ≤ run.last - run.first) :
    (Char.ofNat (run.small + more)).toNat = run.small + more := by
  have bounds := lastSmall_of_mem run member
  simp only [CaseRun.lastSmall] at bounds
  have valid : (run.small + more).isValidChar := by
    simp only [Nat.isValidChar]
    omega
  rw [Char.ofNat, dif_pos valid]
  rfl

/-- The small letters of a run are small. -/
theorem isSmall_of_run {run : CaseRun} (member : run ∈ smallLetterRuns) {more : Nat}
    (within : more ≤ run.last - run.first) (stepped : more % run.step = 0) :
    IsSmall (Char.ofNat (run.small + more)) := by
  have bounds := lastSmall_of_mem run member
  simp only [CaseRun.lastSmall] at bounds
  have code := toNat_ofNat_small member within
  have unmatched : smallLetterRuns.findSome? (·.small? (run.small + more)) = none :=
    List.findSome?_eq_none_iff.mpr fun other among =>
      CaseRun.small?_of_misses (misses_of_mem run member other among) within stepped
  have sigma : smallLetterRuns.findSome? (·.small? 0x3A3) ≠ none := by decide
  refine ⟨?_, ?_, ?_⟩
  · rw [smallLetter, code, unmatched]
  · intro same
    rw [← code, same] at unmatched
    exact sigma unmatched
  · intro same
    rw [same] at code
    have dotted : run.small + more = 0x130 := code.symm
    omega

/-- A character without a small letter is its own, and every small letter is small. -/
theorem smallLetter_cases (c : Char) : smallLetter c = c ∨ IsSmall (smallLetter c) := by
  unfold smallLetter
  split
  · rename_i code found
    obtain ⟨run, member, within⟩ := List.exists_of_findSome?_eq_some found
    simp only [CaseRun.small?] at within
    split at within
    · rename_i bounds
      obtain rfl := Option.some.inj within
      exact .inr (isSmall_of_run member (by omega) bounds.2.2)
    · cases within
  · exact .inl rfl

/-- What a text becomes in small letters is made of small characters. -/
theorem isSmall_of_mem_lowercaseAfter {before text : Text} {c : Char}
    (member : c ∈ lowercaseAfter before text) : IsSmall c := by
  have special : ∀ d ∈ ['\u03C2', '\u03C3', 'i', '\u0307'], IsSmall d := by
    have all : ['\u03C2', '\u03C3', 'i', '\u0307'].all
        (fun d => smallLetter d == d && d != '\u03A3' && d != '\u0130') = true := by
      decide
    intro d among
    have each := List.all_eq_true.mp all d among
    simp only [Bool.and_eq_true, beq_iff_eq, bne_iff_ne] at each
    exact ⟨each.1.1, each.1.2, each.2⟩
  induction text generalizing before with
  | nil => cases member
  | cons first rest inductionHypothesis =>
    rw [lowercaseAfter] at member
    rcases List.mem_append.mp member with here | later
    · split at here
      · split at here
        · obtain rfl := List.mem_singleton.mp here
          exact special _ (by simp)
        · obtain rfl := List.mem_singleton.mp here
          exact special _ (by simp)
      · rename_i sigma
        split at here
        · simp only [List.mem_cons, List.not_mem_nil, or_false] at here
          rcases here with rfl | rfl <;> exact special _ (by simp)
        · rename_i dotted
          obtain rfl := List.mem_singleton.mp here
          rcases smallLetter_cases first with same | small
          · exact ⟨by rw [same, same], by rwa [same], by rwa [same]⟩
          · exact small
    · exact inductionHypothesis later

/-- A text of small characters stays as it is in front of any other. -/
theorem lowercaseAfter_append_of_small {text : Text} (small : ∀ c ∈ text, IsSmall c)
    (before rest : Text) :
    lowercaseAfter before (text ++ rest) =
      text ++ lowercaseAfter (text.reverse ++ before) rest := by
  induction text generalizing before with
  | nil => rfl
  | cons c text inductionHypothesis =>
    obtain ⟨fixed, sigma, dotted⟩ := small c (by simp)
    have later := inductionHypothesis
      (fun other member => small other (List.mem_cons_of_mem c member)) (c :: before)
    rw [List.cons_append, lowercaseAfter, if_neg sigma, if_neg dotted, fixed, later]
    simp

/-- A text of small characters stays as it is. -/
theorem lowercaseAfter_eq_self {text : Text} (small : ∀ c ∈ text, IsSmall c) (before : Text) :
    lowercaseAfter before text = text := by
  have alone := lowercaseAfter_append_of_small small before []
  rwa [List.append_nil, lowercaseAfter, List.append_nil] at alone

/-- Writing a text in small letters twice is writing it so once. -/
theorem lowercase_lowercase (text : Text) : lowercase (lowercase text) = lowercase text :=
  lowercaseAfter_eq_self (fun _ member => isSmall_of_mem_lowercaseAfter member) []

/-- What is so of the first characters, one by one, is so of every character among them. -/
theorem of_forall_code_le {limit : Nat} {property : Char → Prop} {c : Char}
    (low : c.toNat ≤ limit) (codes : ∀ code ≤ limit, property (Char.ofNat code)) :
    property c := by
  have holds := codes c.toNat low
  rwa [Char.ofNat_toNat] at holds

/-- The small letter of an ASCII letter is an ASCII letter as well. -/
theorem smallLetter_of_letter {c : Char} (letter : isAsciiLetter c = true) :
    smallLetter c = asciiLower c ∧ isAsciiLetter (asciiLower c) = true := by
  have low : c.toNat ≤ 122 := by
    simp only [isAsciiLetter, Bool.or_eq_true, Bool.and_eq_true, decide_eq_true_eq] at letter
    rcases letter with ⟨_, last⟩ | ⟨_, last⟩
    · exact last
    · exact Nat.le_trans last (by decide)
  revert letter
  apply of_forall_code_le low
  decide

/-- ASCII letters become small one by one, whatever stands around them. -/
theorem lowercaseAfter_letters {letters : Text} (ascii : ∀ c ∈ letters, isAsciiLetter c = true)
    (before rest : Text) :
    lowercaseAfter before (letters ++ rest) =
      letters.map asciiLower ++ lowercaseAfter (letters.reverse ++ before) rest := by
  induction letters generalizing before with
  | nil => rfl
  | cons c letters inductionHypothesis =>
    have letter := ascii c (by simp)
    have plain : c ≠ '\u03A3' ∧ c ≠ '\u0130' := by
      constructor <;> rintro rfl <;> exact absurd letter (by decide)
    have later := inductionHypothesis (fun d member => ascii d (List.mem_cons_of_mem c member))
      (c :: before)
    rw [List.cons_append, lowercaseAfter, if_neg plain.1, if_neg plain.2,
      (smallLetter_of_letter letter).1, later]
    simp

/-- Only an empty text is empty in small letters. -/
theorem lowercaseAfter_eq_nil_iff {before text : Text} :
    lowercaseAfter before text = [] ↔ text = [] := by
  cases text with
  | nil => simp [lowercaseAfter]
  | cons c rest =>
    simp only [lowercaseAfter, List.append_eq_nil_iff, reduceCtorEq, iff_false, not_and]
    split
    · split <;> simp
    · split <;> simp

/-- A letter at the beginning of a text stays a letter. -/
theorem lowercase_cons_letter {c : Char} (letter : isAsciiLetter c = true) (rest : Text) :
    ∃ small, isAsciiLetter small = true ∧ ∃ more, lowercase (c :: rest) = small :: more := by
  have only : ∀ d ∈ [c], isAsciiLetter d = true := by simpa using letter
  exact ⟨asciiLower c, (smallLetter_of_letter letter).2, lowercaseAfter [c] rest,
    lowercaseAfter_letters only [] rest⟩

end HtmlTemplate.Text
