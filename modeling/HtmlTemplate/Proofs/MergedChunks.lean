import HtmlTemplate.Proofs.Escapes
import HtmlTemplate.Template.Basic

/-!
# Merged literal text

Neighbouring chunks become one, in both of their forms. What the merged chunk was written as then
stands for what is meant, unless an octal escape at the end of one chunk takes digits from the
next one; in that case it stands for a shorter text (`decode_merged_iff`).
-/

namespace HtmlTemplate

namespace Escape

/-! ## Octal escapes that go on -/

theorem Written.unique {text first second : Text} (written : Written text first)
    (other : Written text second) : first = second := by
  have same := (written.decodeFrom 0).symm.trans (other.decodeFrom 0)
  exact Except.ok.inj same

theorem written_cons_iff {c : Char} (ordinary : c ≠ '\\') {rest decoded : Text} :
    Written (c :: rest) decoded ↔ ∃ behind, decoded = c :: behind ∧ Written rest behind := by
  constructor
  · intro written
    generalize whole : c :: rest = text at written
    cases written with
    | nil => cases whole
    | plain _ behind =>
      obtain ⟨rfl, rfl⟩ := List.cons.inj whole
      exact ⟨_, rfl, behind⟩
    | escape => exact absurd (List.cons.inj whole).1 ordinary
  · rintro ⟨behind, rfl, written⟩
    exact .plain ordinary written

/-- Characters that are no backslashes stand for themselves in front of any text. -/
theorem Written.exists_of_append {front rest decoded : Text}
    (written : Written (front ++ rest) decoded) (ordinary : ∀ c ∈ front, c ≠ '\\') :
    ∃ behind, decoded = front ++ behind ∧ Written rest behind := by
  induction front generalizing decoded with
  | nil => exact ⟨decoded, rfl, written⟩
  | cons c front inductionHypothesis =>
    obtain ⟨inside, rfl, further⟩ := (written_cons_iff (ordinary c (by simp))).mp written
    obtain ⟨behind, rfl, rest⟩ :=
      inductionHypothesis further fun d member => ordinary d (List.mem_cons_of_mem c member)
    exact ⟨behind, rfl, rest⟩

/-- An octal escape behind a text that stands for another. -/
theorem Written.append_octal {front decoded digits rest behind : Text}
    (written : Written front decoded) (nonempty : digits ≠ []) (octal : OctalFront 3 digits rest)
    (inside : Written rest behind) :
    ∃ c, Written (front ++ '\\' :: (digits ++ rest)) (decoded ++ c :: behind) := by
  obtain ⟨code, numeral⟩ := exists_numeral nonempty octal.octal
  have escaped : Written ('\\' :: (digits ++ rest)) ([Char.ofNat code] ++ behind) :=
    .escape (.octal numeral octal.few) (fun short => octal.ended short.short) inside
  exact ⟨_, written.append escaped fun _ => not_beginsOctal_backslash _⟩

/-- An octal escape that goes on in a text behind it makes the whole stand for fewer characters
than the two texts on their own. -/
theorem Written.exists_shorter {first decoded second more : Text} (written : Written first decoded)
    (behind : Written second more) (ends : EndsInOctal first) (begins : BeginsOctal second) :
    ∃ joined, Written (first ++ second) joined ∧ joined.length < decoded.length + more.length := by
  obtain ⟨front, digits, before, rfl, inside, nonempty, short⟩ := ends
  obtain ⟨taken, rest, rfl, octal, few, ended⟩ := exists_octalFront (3 - digits.length) second
  have room : digits.length < 3 := short.short
  have takes : taken ≠ [] := by
    rintro rfl
    exact ended (Nat.sub_pos_of_lt room) begins
  have ordinary : ∀ c ∈ taken, c ≠ '\\' := by
    rintro c member rfl
    exact not_beginsOctal_backslash [] (octal '\\' member)
  obtain ⟨left, rfl, rest⟩ := behind.exists_of_append ordinary
  -- The escape is one character, on its own and with the digits that it takes.
  obtain ⟨c, alone⟩ := inside.append_octal nonempty
    ⟨short.octal, Nat.le_of_lt room, fun _ => not_beginsOctal_nil⟩ .nil
  rw [List.append_nil] at alone
  obtain rfl := written.unique alone
  have front : OctalFront 3 (digits ++ taken) _ :=
    ⟨by simpa [or_imp, forall_and] using ⟨short.octal, octal⟩, by simp; omega,
      fun few => ended (by simp at few; omega)⟩
  obtain ⟨d, joined⟩ := inside.append_octal (by simp [nonempty]) front rest
  refine ⟨_, by simpa using joined, ?_⟩
  have least : 0 < taken.length := List.length_pos_iff.mpr takes
  simp only [List.length_append, List.length_cons, List.length_nil]
  omega

end Escape

/-! ## Chunks -/

namespace Chunk

open Escape

/-- What a chunk was written as stands for what is meant. -/
def Faithful (chunk : Chunk) : Prop :=
  Written chunk.raw chunk.decoded

/-- What a chunk was written as stands for what is meant, or else for fewer characters. -/
def Contracts (chunk : Chunk) : Prop :=
  ∃ read, Written chunk.raw read ∧ (read = chunk.decoded ∨ read.length < chunk.decoded.length)

/-- Whether an octal escape at the end of a chunk goes on in the text behind it. -/
def GoesOn (chunk : Chunk) (behind : Text) : Prop :=
  EndsInOctal chunk.raw ∧ BeginsOctal behind

theorem decode_eq_ok_iff {raw : Text} {chunk : Chunk} :
    decode raw = .ok chunk ↔ chunk.raw = raw ∧ Written raw chunk.decoded := by
  rw [decode, ← Escape.decode_eq_ok_iff]
  cases Escape.decode raw with
  | error error => simp [Except.map]
  | ok decoded =>
    obtain ⟨raw', decoded'⟩ := chunk
    simp [Except.map, eq_comm]

theorem faithful_of_decode {raw : Text} {chunk : Chunk} (read : decode raw = .ok chunk) :
    chunk.Faithful := by
  obtain ⟨rfl, written⟩ := decode_eq_ok_iff.mp read
  exact written

theorem exists_decode_iff {chunk : Chunk} :
    (∃ again, decode chunk.raw = .ok again ∧ again.decoded = chunk.decoded) ↔ chunk.Faithful := by
  constructor
  · rintro ⟨again, read, same⟩
    rw [Faithful, ← same]
    exact (decode_eq_ok_iff.mp read).2
  · intro faithful
    exact ⟨chunk, decode_eq_ok_iff.mpr ⟨rfl, faithful⟩, rfl⟩

section Merging

variable {chunk next : Chunk}

/-- Behind a chunk whose last escape does not go on, a chunk stands for what it stands for on its
own. -/
theorem Faithful.append (faithful : chunk.Faithful) {read : Text} (behind : Written next.raw read)
    (apart : ¬ chunk.GoesOn next.raw) : Written (chunk.append next).raw (chunk.decoded ++ read) :=
  Written.append faithful behind fun ends begins => apart ⟨ends, begins⟩

/-- Two chunks as one stand for what is meant or for fewer characters, if the second does so. -/
theorem Contracts.append (contracts : next.Contracts) (faithful : chunk.Faithful) :
    (chunk.append next).Contracts := by
  obtain ⟨read, behind, reading⟩ := contracts
  have least : read.length ≤ next.decoded.length := by
    rcases reading with rfl | shorter
    · exact Nat.le_refl _
    · exact Nat.le_of_lt shorter
  have size : (chunk.append next).decoded.length = chunk.decoded.length + next.decoded.length :=
    List.length_append
  by_cases goesOn : chunk.GoesOn next.raw
  · obtain ⟨joined, written, shorter⟩ := Written.exists_shorter faithful behind goesOn.1 goesOn.2
    exact ⟨joined, written, .inr (by omega)⟩
  · refine ⟨_, faithful.append behind goesOn, ?_⟩
    rcases reading with rfl | shorter
    · exact .inl rfl
    · exact .inr (by rw [List.length_append, size]; omega)

/-- Two chunks as one stand for what is meant exactly if the second does so and no escape at the
end of the first goes on in it. -/
theorem Contracts.faithful_append_iff (contracts : next.Contracts) (faithful : chunk.Faithful) :
    (chunk.append next).Faithful ↔ next.Faithful ∧ ¬ chunk.GoesOn next.raw := by
  obtain ⟨read, behind, reading⟩ := contracts
  constructor
  · intro whole
    have apart : ¬ chunk.GoesOn next.raw := by
      intro goesOn
      obtain ⟨joined, written, shorter⟩ := Written.exists_shorter faithful behind goesOn.1 goesOn.2
      have size := congrArg List.length (written.unique whole)
      rw [Chunk.append, List.length_append] at size
      rcases reading with rfl | shorter' <;> omega
    have same := (faithful.append behind apart).unique whole
    obtain rfl := List.append_cancel_left same
    exact ⟨behind, apart⟩
  · rintro ⟨second, apart⟩
    exact faithful.append second apart

end Merging

end Chunk

/-! ## Templates -/

namespace Template

open Escape Decimal

/-- Among the items a chunk ends with an octal escape that goes on in the texts right behind it. -/
def HasOctalSeam (items : List Item) : Prop :=
  ∃ (front : List Item) (chunk : Chunk) (run : List Chunk) (behind : List Item),
    items = front ++ .text chunk :: (run.map .text ++ behind) ∧
      chunk.GoesOn (run.flatMap Chunk.raw)

theorem not_hasOctalSeam_nil : ¬ HasOctalSeam [] := by
  rintro ⟨front, chunk, run, behind, parts, -⟩
  simp at parts

theorem hasOctalSeam_interpolation {interpolation : Interpolation} {items : List Item} :
    HasOctalSeam (.interpolation interpolation :: items) ↔ HasOctalSeam items := by
  constructor
  · rintro ⟨front, chunk, run, behind, parts, goesOn⟩
    cases front with
    | nil => cases parts
    | cons item front => exact ⟨front, chunk, run, behind, (List.cons.inj parts).2, goesOn⟩
  · rintro ⟨front, chunk, run, behind, rfl, goesOn⟩
    exact ⟨.interpolation interpolation :: front, chunk, run, behind, rfl, goesOn⟩

/-- The first text of a template begins like some texts at the beginning of its items. -/
theorem exists_run (items : List Item) :
    ∃ (run : List Chunk) (behind : List Item), items = run.map .text ++ behind ∧
      (ofItems items).first.raw = run.flatMap Chunk.raw := by
  induction items with
  | nil => exact ⟨[], [], rfl, rfl⟩
  | cons item items inductionHypothesis =>
    cases item with
    | text chunk =>
      obtain ⟨run, behind, rfl, raw⟩ := inductionHypothesis
      exact ⟨chunk :: run, behind, rfl, congrArg (chunk.raw ++ ·) raw⟩
    | interpolation interpolation => exact ⟨[], _, rfl, rfl⟩

theorem raw_first_append (run : List Chunk) (behind : List Item) :
    (ofItems (run.map .text ++ behind)).first.raw =
      run.flatMap Chunk.raw ++ (ofItems behind).first.raw := by
  induction run with
  | nil => rfl
  | cons chunk run inductionHypothesis =>
    simp only [List.map_cons, List.cons_append, ofItems, Chunk.append, inductionHypothesis,
      List.flatMap_cons, List.append_assoc]

theorem hasOctalSeam_text {chunk : Chunk} {items : List Item} :
    HasOctalSeam (.text chunk :: items) ↔
      chunk.GoesOn (ofItems items).first.raw ∨ HasOctalSeam items := by
  constructor
  · rintro ⟨front, first, run, behind, parts, goesOn⟩
    cases front with
    | nil =>
      obtain ⟨same, rfl⟩ := List.cons.inj parts
      cases same
      rw [raw_first_append]
      exact .inl ⟨goesOn.1, goesOn.2.append _⟩
    | cons item front => exact .inr ⟨front, first, run, behind, (List.cons.inj parts).2, goesOn⟩
  · rintro (goesOn | ⟨front, first, run, behind, rfl, goesOn⟩)
    · obtain ⟨run, behind, parts, raw⟩ := exists_run items
      rw [raw] at goesOn
      exact ⟨[], chunk, run, behind, congrArg (.text chunk :: ·) parts, goesOn⟩
    · exact ⟨.text chunk :: front, first, run, behind, rfl, goesOn⟩

/-- The chunks of a template stand for what is meant, if those of its items do, unless an octal
escape goes on from one to the next; at most they stand for fewer characters. -/
theorem chunks_contract {items : List Item}
    (faithful : ∀ chunk, .text chunk ∈ items → chunk.Faithful) :
    (∀ chunk ∈ (ofItems items).chunks, chunk.Contracts) ∧
      ((∀ chunk ∈ (ofItems items).chunks, chunk.Faithful) ↔ ¬ HasOctalSeam items) := by
  have empty : ({} : Chunk).Faithful := .nil
  induction items with
  | nil =>
    have alone : (ofItems []).chunks = [{}] := rfl
    simp only [alone, List.forall_mem_singleton, not_hasOctalSeam_nil, not_false_eq_true, iff_true]
    exact ⟨⟨[], empty, .inl rfl⟩, empty⟩
  | cons item items inductionHypothesis =>
    obtain ⟨contract, inStep⟩ :=
      inductionHypothesis fun chunk member => faithful chunk (List.mem_cons_of_mem item member)
    cases item with
    | text chunk =>
      have first : chunk.Faithful := faithful chunk (by simp)
      simp only [chunks, ofItems, List.forall_mem_cons] at contract inStep ⊢
      refine ⟨⟨contract.1.append first, contract.2⟩, ?_⟩
      rw [contract.1.faithful_append_iff first, hasOctalSeam_text, not_or, ← inStep,
        and_right_comm, and_comm]
    | interpolation interpolation =>
      have made : (ofItems (.interpolation interpolation :: items)).chunks =
        {} :: (ofItems items).chunks := rfl
      simp only [made, List.forall_mem_cons, hasOctalSeam_interpolation, ← inStep]
      exact ⟨⟨⟨[], empty, .inl rfl⟩, contract⟩, and_iff_right empty⟩

/-- What the chunks of a template were written as can always be decoded, if the chunks of its items
were decoded. It is decoded to what is meant exactly if no octal escape at the end of a chunk goes
on in the next one. -/
theorem decode_merged_iff {items : List Item}
    (decoded : ∀ chunk, .text chunk ∈ items → ∃ raw, Chunk.decode raw = .ok chunk) :
    (∀ chunk ∈ (ofItems items).chunks, ∃ again, Chunk.decode chunk.raw = .ok again) ∧
      ((∀ chunk ∈ (ofItems items).chunks,
          ∃ again, Chunk.decode chunk.raw = .ok again ∧ again.decoded = chunk.decoded) ↔
        ¬ HasOctalSeam items) := by
  have faithful : ∀ chunk, .text chunk ∈ items → chunk.Faithful := by
    intro chunk member
    obtain ⟨raw, read⟩ := decoded chunk member
    exact Chunk.faithful_of_decode read
  obtain ⟨contract, inStep⟩ := chunks_contract faithful
  simp only [Chunk.exists_decode_iff]
  refine ⟨fun chunk member => ?_, inStep⟩
  obtain ⟨read, written, _⟩ := contract chunk member
  exact ⟨⟨chunk.raw, read⟩, Chunk.decode_eq_ok_iff.mpr ⟨rfl, written⟩⟩

/-- An octal escape of three digits does not go on, nor does one in front of an interpolation. -/
theorem decode_merged_full :
    let place : Interpolation := { expr := ['n'], source := .held (.int 7) }
    let items : List Item :=
      [.text ⟨['\\', '1', '0', '1'], ['A']⟩, .text (.ofText ['1']),
        .text ⟨['\\', '7'], ['\x07']⟩, .interpolation place, .text (.ofText ['7'])]
    (∀ chunk, .text chunk ∈ items → ∃ raw, Chunk.decode raw = .ok chunk) ∧
      (ofItems items).chunks.map Chunk.raw =
        [['\\', '1', '0', '1', '1', '\\', '7'], ['7']] ∧
      (∀ chunk ∈ (ofItems items).chunks,
        ∃ again, Chunk.decode chunk.raw = .ok again ∧ again.decoded = chunk.decoded) ∧
      ¬ HasOctalSeam items := by
  intro place items
  have hundred : Numeral 8 ['1', '0', '1'] 65 := (toNat?_eq_some_iff (by decide)).mp rfl
  have seven : Numeral 8 ['7'] 7 := (toNat?_eq_some_iff (by decide)).mp rfl
  have digit : ∀ c, c ≠ '\\' → Written [c] [c] := fun c ordinary => .plain ordinary .nil
  have bell : Written ['\\', '7'] ['\x07'] := written_octal seven (by decide)
  have merged : Written ['\\', '1', '0', '1', '1', '\\', '7'] ['A', '1', '\x07'] := by
    have whole : Written ('\\' :: (['1', '0', '1'] ++ '1' :: ['\\', '7'])) (['A'] ++ _) :=
      .escape (.octal hundred (by decide)) (fun digits => absurd digits.short (by decide))
        (.plain (by decide) bell)
    exact whole
  have decoded : ∀ chunk, .text chunk ∈ items → ∃ raw, Chunk.decode raw = .ok chunk := by
    intro chunk member
    refine ⟨chunk.raw, Chunk.decode_eq_ok_iff.mpr ⟨rfl, ?_⟩⟩
    simp only [items, List.mem_cons, Item.text.injEq, reduceCtorEq, List.not_mem_nil, or_false,
      false_or] at member
    rcases member with rfl | rfl | rfl | rfl
    · exact written_octal hundred (by decide)
    · exact digit '1' (by decide)
    · exact bell
    · exact digit '7' (by decide)
  have again : ∀ chunk ∈ (ofItems items).chunks,
      ∃ again, Chunk.decode chunk.raw = .ok again ∧ again.decoded = chunk.decoded := by
    have made : (ofItems items).chunks =
      [⟨['\\', '1', '0', '1', '1', '\\', '7'], ['A', '1', '\x07']⟩, .ofText ['7']] := rfl
    simp only [made, List.forall_mem_cons, List.not_mem_nil, false_imp_iff, implies_true, and_true,
      Chunk.exists_decode_iff]
    exact ⟨merged, digit '7' (by decide)⟩
  exact ⟨decoded, rfl, again, (decode_merged_iff decoded).2.mp again⟩

/-- A short octal escape at the end of a chunk takes the digit that the next chunk begins with. -/
theorem not_decode_merged_octal :
    let first : Chunk := ⟨['\\', '1'], ['\x01']⟩
    let second : Chunk := ⟨['2'], ['2']⟩
    Chunk.decode ['\\', '1'] = .ok first ∧ Chunk.decode ['2'] = .ok second ∧
      ¬ ∀ chunk ∈ (ofItems [.text first, .text second]).chunks,
        ∃ again, Chunk.decode chunk.raw = .ok again ∧ again.decoded = chunk.decoded := by
  intro first second
  have one : Numeral 8 ['1'] 1 := (toNat?_eq_some_iff (by decide)).mp rfl
  have ten : Numeral 8 ['1', '2'] 10 := (toNat?_eq_some_iff (by decide)).mp rfl
  have joined : Written ['\\', '1', '2'] ['\n'] := written_octal ten (by decide)
  have made : (ofItems [.text first, .text second]).chunks =
    [⟨['\\', '1', '2'], ['\x01', '2']⟩] := rfl
  refine ⟨Chunk.decode_eq_ok_iff.mpr ⟨rfl, written_octal one (by decide)⟩,
    Chunk.decode_eq_ok_iff.mpr ⟨rfl, .plain (by decide) .nil⟩, fun all => ?_⟩
  rw [made] at all
  have inStep : Written ['\\', '1', '2'] ['\x01', '2'] :=
    Chunk.exists_decode_iff.mp (all _ (List.mem_singleton_self _))
  exact absurd (joined.unique inStep) (by decide)

end Template

end HtmlTemplate
