import HtmlTemplate.Format.Ascii
import HtmlTemplate.Proofs.Escapes

/-!
# Text in ASCII is decoded back

A character that is not ASCII is written as an escape with exactly as many hexadecimal digits as
its letter asks for. So the escape ends where its digits end, even in front of a character that
is a hexadecimal digit itself, and decoding gives back the text (`decode_ascii`).
-/

namespace HtmlTemplate.Format

open Decimal Escape

/-- The digits of a number that fits in a width fill it exactly. -/
theorem length_hexadecimal {width n : Nat} (nonzero : 0 < width) (fits : n < Nat.pow 16 width) :
    (hexadecimal width n).length = width := by
  have short := length_numeral_le nonzero fits
  simp only [hexadecimal, List.length_append, List.length_replicate]
  omega

theorem numeral_hexadecimal (width n : Nat) : Numeral 16 (hexadecimal width n) n :=
  (numeral_numeral (by decide) (by decide) n).behindZeros _

/-- How a character can stand in ASCII text. -/
inductive InAscii (c : Char) : Text → Prop where
  /-- An ASCII character stands for itself. -/
  | plain (small : c.toNat < 0x80) : InAscii c [c]
  /-- Any other one is an escape of a width that its number fits in. -/
  | escaped {letter : Char} {count : Nat} (width : (letter, count) ∈ [('x', 2), ('u', 4), ('U', 8)])
      (fits : c.toNat < Nat.pow 16 count) : InAscii c ('\\' :: letter :: hexadecimal count c.toNat)

theorem inAscii_asciiChar (c : Char) : InAscii c (asciiChar c) := by
  simp only [asciiChar]
  split
  · rename_i small
    exact .plain small
  · split
    · rename_i two
      have fits : c.toNat < Nat.pow 16 2 := Nat.lt_succ_of_le two
      exact .escaped (by simp) fits
    · split
      · rename_i four
        have fits : c.toNat < Nat.pow 16 4 := Nat.lt_succ_of_le four
        exact .escaped (by simp) fits
      · have bound : c.toNat < 0x110000 := by
          rcases c.valid with low | ⟨_, high⟩
          · exact Nat.lt_trans low (by decide)
          · exact high
        have fits : c.toNat < Nat.pow 16 8 := Nat.lt_trans bound (by decide)
        exact .escaped (by simp) fits

/-- Hexadecimal digits are ASCII characters. -/
theorem isAscii_of_mem_hexadecimal {width n : Nat} :
    ∀ c ∈ hexadecimal width n, c.toNat < 0x80 := by
  have digit : ∀ d < 16, (digitChar d).toNat < 0x80 := by decide
  intro c member
  rcases List.mem_append.mp member with zero | numeral
  · rw [List.eq_of_mem_replicate zero]
    decide
  · obtain ⟨d, written, rfl⟩ := List.mem_map.mp numeral
    exact digit d (lt_base_of_mem_digits (by decide) n d written)

/-- What shows a character is ASCII. -/
theorem InAscii.isAscii {c : Char} {shown : Text} (shows : InAscii c shown) :
    ∀ d ∈ shown, d.toNat < 0x80 := by
  cases shows with
  | plain small => simpa using small
  | @escaped letter count width fits =>
    have known : letter.toNat < 0x80 := by
      have all : ∀ pair ∈ [('x', 2), ('u', 4), ('U', 8)], pair.1.toNat < 0x80 := by decide
      exact all _ width
    intro d member
    rcases List.mem_cons.mp member with rfl | member
    · decide
    · rcases List.mem_cons.mp member with rfl | member
      · exact known
      · exact isAscii_of_mem_hexadecimal d member

/-- What shows a character stands for it, in front of any text. -/
theorem InAscii.written {c : Char} {shown rest decoded : Text} (shows : InAscii c shown)
    (ordinary : c ≠ '\\') (behind : Written rest decoded) :
    Written (shown ++ rest) (c :: decoded) := by
  cases shows with
  | plain small => exact .plain ordinary behind
  | @escaped letter count width fits =>
    have nonzero : 0 < count := by
      have all : ∀ pair ∈ [('x', 2), ('u', 4), ('U', 8)], 0 < pair.2 := by decide
      exact all _ width
    have denotes : Denotes (letter :: hexadecimal count c.toNat) [Char.ofNat c.toNat] :=
      .hexadecimal width (numeral_hexadecimal count c.toNat) (length_hexadecimal nonzero fits)
        c.valid
    -- The letter is no octal digit, so what follows cannot lengthen the escape.
    have foreign : ¬ IsOctal letter := not_isOctal_of_width width
    rw [Char.ofNat_toNat] at denotes
    exact .escape denotes (fun short => absurd (short.octal letter (by simp)) foreign) behind

/-- Text in ASCII stands for the text that it was made of. -/
theorem written_ascii {text : Text} (unescaped : '\\' ∉ text) : Written (ascii text) text := by
  induction text with
  | nil => exact .nil
  | cons c text inductionHypothesis =>
    obtain ⟨ordinary, behind⟩ : '\\' ≠ c ∧ '\\' ∉ text := by
      rwa [List.mem_cons, not_or] at unescaped
    exact (inAscii_asciiChar c).written (Ne.symm ordinary) (inductionHypothesis behind)

/-- A text without backslashes is written with ASCII characters only, and decoding what is written
gives it back. -/
theorem decode_ascii {text : Text} (unescaped : '\\' ∉ text) :
    (∀ c ∈ ascii text, c.toNat < 0x80) ∧ Escape.decode (ascii text) = .ok text ∧
      Chunk.decode (ascii text) = .ok ⟨ascii text, text⟩ := by
  have decoded : Escape.decode (ascii text) = .ok text :=
    decode_eq_ok_iff.mpr (written_ascii unescaped)
  refine ⟨?_, decoded, ?_⟩
  · intro c member
    obtain ⟨d, _, shown⟩ := List.mem_flatMap.mp member
    exact (inAscii_asciiChar d).isAscii c shown
  · rw [Chunk.decode, decoded]
    rfl

/-- The last and the first characters of each width, with hexadecimal digits right behind their
escapes. -/
theorem decode_ascii_boundaries :
    let text : Text := ['\x7f', '\u0080', 'f', '\u00ff', '0', '\u0100', 'a', '\uffff', '1',
      Char.ofNat 0x10000, 'b']
    let shown := "\x7f\\x80f\\xff0\\u0100a\\uffff1\\U00010000b".toList
    '\\' ∉ text ∧ ascii text = shown ∧ (∀ c ∈ shown, c.toNat < 0x80) ∧
      Escape.decode shown = .ok text ∧ Chunk.decode shown = .ok ⟨shown, text⟩ := by
  intro text shown
  have unescaped : '\\' ∉ text := by decide
  have same : ascii text = shown := by decide +kernel
  have decoded := decode_ascii unescaped
  rw [same] at decoded
  exact ⟨unescaped, same, decoded⟩

end HtmlTemplate.Format
