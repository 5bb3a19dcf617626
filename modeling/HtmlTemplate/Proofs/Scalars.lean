import HtmlTemplate.Proofs.LineFeeds
import HtmlTemplate.Proofs.Numerals

/-!
# Scalars and a line feed at the end

Strings, numbers, dates and times are read by exact readers, strings of several lines included: a
line feed at the end of the text never belongs to them, for they would have to go on behind it.
-/

namespace HtmlTemplate.Toml

open Reader

/-! ## Blanks and line ends -/

/-- Blanks stop in front of a line end. -/
theorem exact_blanks : Exact blanks :=
  (exact_takeWhile (by decide)).bind fun _ => exact_pure ()

/-- A comment takes its sign and stops in front of the line end. -/
theorem consuming_comment : Consuming comment :=
  (consuming_takeChar (by decide)).bind fun _ =>
    (exact_takeWhile (by decide)).bind fun _ => exact_pure ()

/-- Where no carriage return stands a line ends with a line feed. -/
theorem newline_cons {c : Char} (other : c ≠ '\r') (rest : Text) :
    newline (c :: rest) = if c = '\n' then some ((), rest) else none := by
  rw [newline, orElse_apply, takeChar_cons]
  split
  · rfl
  · simp [takeText, Text.dropPrefix?, Ne.symm other]

/-- A text without carriage returns does not begin with one. -/
theorem ne_return_of_clean {c : Char} {rest : Text} (clean : '\r' ∉ c :: rest) : c ≠ '\r' :=
  fun same => clean (same ▸ List.mem_cons_self)

/-- The end of a line takes its line feed. -/
theorem advances_newline : Advances newline := by
  intro text clean item rest taken
  cases text with
  | nil => cases taken
  | cons c tail =>
    rw [newline_cons (ne_return_of_clean clean)] at taken
    split at taken
    · cases taken
      exact ⟨List.suffix_cons _ _, by simp⟩
    · cases taken

/-- The end of a line takes a line feed that stands alone. -/
theorem lenient_newline (dead stuck : Text → Prop) (empty : stuck []) :
    Lenient dead stuck nothing newline := by
  intro text clean
  cases text with
  | nil => exact .inr ⟨empty, rfl, (), rfl, rfl⟩
  | cons c rest =>
    have other := ne_return_of_clean clean
    rw [List.cons_append, newline_cons other, newline_cons other]
    refine .inl ?_
    split
    · exact .live () (List.suffix_cons c rest)
    · exact .failed

/-- The end of a line or of the text takes a line feed at the end of the text. -/
theorem steady_newline_or_atEnd {γ : Type} {kept : Unit → γ} :
    Steady (· = []) kept (newline <|> atEnd) := by
  intro text clean
  rw [orElse_apply, orElse_apply]
  cases text with
  | nil => exact .dead rfl (List.suffix_refl _) rfl
  | cons c rest =>
    have other := ne_return_of_clean clean
    rw [List.cons_append, newline_cons other, newline_cons other]
    split
    · exact .live () (List.suffix_cons c rest)
    · exact .failed

/-! ## Strings -/

/-- A line feed at the end of a text is no part of a beginning of a given length, or the text is too
short for that. -/
theorem take_append_lineFeed (text : Text) (count : Nat) :
    (count ≤ text.length ∧ (text ++ ['\n']).take count = text.take count ∧
        (text ++ ['\n']).drop count = text.drop count ++ ['\n']) ∨
      ((text.take count).length ≠ count ∧ (text ++ ['\n']).take count = text ++ ['\n']) := by
  rcases Nat.lt_or_ge text.length count with short | long
  · refine .inr ⟨by rw [List.length_take]; omega, List.take_of_length_le ?_⟩
    rw [List.length_append]
    exact short
  · exact .inl ⟨long, List.take_append_of_le_length long, List.drop_append_of_le_length long⟩

/-- A line feed is no digit, so it does not help out where digits are missing. -/
theorem exact_codePoint (count : Nat) : Exact (codePoint count) := by
  intro text _
  rcases take_append_lineFeed text count with ⟨_, same, left⟩ | ⟨short, whole⟩
  · rw [codePoint, codePoint, same, left]
    split
    · exact .failed
    · split
      · exact .live _ (List.drop_suffix count text)
      · exact .failed
  · have unread : Text.toNat? 16 (text ++ ['\n']) = none := by
      by_cases empty : text = []
      · subst empty
        rfl
      · rw [Decimal.toNat?_append_singleton 16 empty]
        exact Option.bind_eq_none_iff.mpr fun _ _ => rfl
    have missing : codePoint count text = none := by
      rw [codePoint]
      split
      · rfl
      · exact if_neg fun both => short both.1
    rw [codePoint, whole, unread, missing]
    exact .failed

/-- An escape takes its backslash, and the digits it announces. -/
theorem consuming_escape : Consuming escape := by
  refine (consuming_takeChar (by decide)).bind fun _ => exact_takeIf_bind rfl fun c => ?_
  split
  · exact exact_pure _
  · exact (exact_codePoint 4).ite ((exact_codePoint 8).ite exact_failure)

/-- A string between double quotes ends at its second one. -/
theorem exact_basicString : Exact basicString :=
  (exact_takeChar (by decide)).bind fun _ =>
    ((consuming_takeIf (by decide)).orElse consuming_escape).many.bind fun content =>
      (exact_takeChar (by decide)).bind fun _ => exact_pure content

/-- A string between single quotes ends at its second one. -/
theorem exact_literalString : Exact literalString :=
  (exact_takeChar (by decide)).bind fun _ =>
    (exact_takeWhile (by decide)).bind fun content =>
      (exact_takeChar (by decide)).bind fun _ => exact_pure content

/-! ### Strings of several lines -/

/-- A run of quotes at the beginning of a text does not reach a line feed at its end. -/
theorem takeWhile_quote {quote : Char} (other : quote ≠ '\n') (text : Text) :
    (text ++ ['\n']).takeWhile (· = quote) = text.takeWhile (· = quote) :=
  Text.takeWhile_append_of_head (by simpa using other.symm) text

/-- Quotes inside a string of several lines are counted in front of a line feed. -/
theorem exact_innerQuotes {quote : Char} (other : quote ≠ '\n') : Exact (innerQuotes quote) := by
  intro text _
  have within := (List.takeWhile_prefix (· = quote) (l := text)).length_le
  simp only [innerQuotes, takeWhile_quote other]
  split
  · rw [List.drop_append_of_le_length within]
    exact .live _ (List.drop_suffix _ text)
  · exact .failed

/-- Quotes inside a string of several lines are one or two. -/
theorem advances_innerQuotes (quote : Char) : Advances (innerQuotes quote) := by
  intro text _ item rest taken
  have within := (List.takeWhile_prefix (· = quote) (l := text)).length_le
  simp only [innerQuotes] at taken
  split at taken
  · rename_i some
    cases taken
    refine ⟨List.drop_suffix _ text, ?_⟩
    rw [List.length_drop]
    omega
  · cases taken

/-- The quotes at the end of a string of several lines stand in front of a line feed. -/
theorem exact_closingQuotes {quote : Char} (other : quote ≠ '\n') :
    Exact (closingQuotes quote) := by
  intro text _
  have within : ((text.takeWhile (· = quote)).take 5).length ≤ text.length :=
    (List.take_prefix _ _ |>.trans (List.takeWhile_prefix _)).length_le
  simp only [closingQuotes, takeWhile_quote other]
  split
  · exact .failed
  · rw [List.drop_append_of_le_length within]
    exact .live _ (List.drop_suffix _ text)

/-- Where a string of several lines can neither go on nor end. -/
structure StringDead (quote : Char) (content : Reader Text) (rest : Text) : Prop where
  failed : content rest = none
  head : ∀ c ∈ rest.head?, c ≠ '\n' ∧ c ≠ '\r' ∧ c ≠ quote

namespace StringDead

variable {quote : Char} {content : Reader Text} {rest : Text}

/-- No quotes stand where a string can neither go on nor end. -/
theorem takeWhile_eq_nil (dead : StringDead quote content rest) :
    rest.takeWhile (· = quote) = [] := by
  cases rest with
  | nil => rfl
  | cons c rest => simp [(dead.head c rfl).2.2]

/-- Such a string is not closed there. -/
theorem closingQuotes_eq_none (dead : StringDead quote content rest) :
    closingQuotes quote rest = none := by
  simp [closingQuotes, dead.takeWhile_eq_nil]

/-- Such a string does not go on with quotes there. -/
theorem innerQuotes_eq_none (dead : StringDead quote content rest) :
    innerQuotes quote rest = none := by
  simp [innerQuotes, dead.takeWhile_eq_nil]

/-- Such a string does not go on with a line end there. -/
theorem newline_eq_none (dead : StringDead quote content rest) : newline rest = none := by
  cases rest with
  | nil => rfl
  | cons c rest =>
    obtain ⟨feed, other, _⟩ := dead.head c rfl
    rw [newline_cons other, if_neg feed]

end StringDead

/-- What a string of several lines is made of. -/
def stringPart (quote : Char) (content : Reader Text) : Reader Text :=
  content <|> (do newline; pure ['\n']) <|> innerQuotes quote

section LongString

variable {quote : Char} {content : Reader Text}

/-- Such a string does not go on with anything there. -/
theorem StringDead.stringPart_eq_none {rest : Text} (dead : StringDead quote content rest) :
    stringPart quote content rest = none := by
  rw [stringPart, orElse_apply, orElse_apply, bind_apply, dead.failed, dead.newline_eq_none,
    dead.innerQuotes_eq_none]
  rfl

/-- Each part of a string of several lines takes something, if the content does. -/
theorem advances_stringPart (advances : Advances content) :
    Advances (stringPart quote content) :=
  advances.orElse ((advances_newline.bind fun _ => (exact_pure _).within).orElse
    (advances_innerQuotes quote))

/-- A line end is a part of a string of several lines, so the parts are lenient. -/
theorem lenient_stringPart (other : quote ≠ '\n')
    (lenient : Lenient (StringDead quote content) (StringDead quote content)
      nothing content) (advances : Advances content) :
    Lenient (StringDead quote content) (StringDead quote content) nothing
      (stringPart quote content) := by
  have empty : StringDead quote content [] := ⟨advances.nil, by simp⟩
  have feeds : Lenient (StringDead quote content) (StringDead quote content)
      nothing (do newline; pure ['\n']) :=
    (lenient_newline (fun _ => False) _ empty).bind_pure (fun _ impossible => impossible.elim)
      (fun _ _ _ => rfl) fun _ _ => rfl
  refine lenient.orElse (feeds.orElse (exact_innerQuotes other).steady.lenient
    fun _ dead => ⟨dead, dead.innerQuotes_eq_none⟩) fun rest dead => ⟨dead, ?_⟩
  rw [orElse_apply, bind_apply, dead.newline_eq_none, dead.innerQuotes_eq_none]
  rfl

/-- A string of several lines holds all its line ends, whatever its content is made of. -/
theorem exact_longString (other : quote ≠ '\n')
    (lenient : Lenient (StringDead quote content) (StringDead quote content)
      nothing content) (advances : Advances content) :
    Exact (longString quote content) := by
  let closed (parts : List Text) : Reader Text := do
    let last ← closingQuotes quote
    pure (parts.flatten ++ last)
  let inside : Reader Text := many (stringPart quote content) >>= closed
  have parts := (lenient_stringPart other lenient advances).many (advances_stringPart advances)
    (fun _ dead => dead) fun _ dead => dead.stringPart_eq_none
  have exactInside : Exact inside :=
    parts.bind_exact (fun _ => (exact_closingQuotes other).bind fun _ => exact_pure _)
      (fun _ => rfl) fun _ _ dead => bind_of_none dead.closingQuotes_eq_none _
  have unended : inside [] = none :=
    bind_of_some (many_of_none (advances_stringPart advances).nil) closed
  have single : '\n' ∉ [quote, quote, quote] := by simpa using other.symm
  refine (exact_takeText single).bind fun _ => ?_
  -- The line feed at the end may be the one right behind the opening quotes; nothing closes the
  -- string then, with it or without it.
  exact ((lenient_newline (· = []) (· = []) rfl).maybe fun _ empty => empty).bind_exact
    (fun _ => exactInside) (fun _ => unended) fun _ rest empty => by rw [empty]; exact unended

end LongString

/-- A blank or a tab is taken exactly. -/
theorem consuming_lineBlank : Consuming (do let _ ← takeIf isLineBlank) :=
  (consuming_takeIf (by decide)).bind fun _ => exact_pure ()

/-- Blanks and line ends behind a line end can reach to the end of the text. -/
theorem steady_lineBlanks :
    Steady (· = []) nothing (do let _ ← many (newline <|> do let _ ← takeIf isLineBlank)) := by
  have lenient : Lenient (· = []) (· = []) nothing
      (newline <|> do let _ ← takeIf isLineBlank) :=
    (lenient_newline (· = []) (· = []) rfl).orElse consuming_lineBlank.runs.steady.lenient
      fun text empty => ⟨empty, by rw [empty, consuming_lineBlank.advances.nil]⟩
  have advances := advances_newline.orElse consuming_lineBlank.advances
  have blanks := lenient.many advances (fun _ empty => empty) fun rest empty => by
    rw [empty, advances.nil]
  exact blanks.bind_pure fun _ _ _ => rfl

/-- A text that is at its end, or where a backslash and blanks are all that is left of a line. -/
def ContinuationDead (text : Text) : Prop :=
  text = [] ∨ ∃ spaces, text = '\\' :: spaces ∧ ∀ c ∈ spaces, isLineBlank c = true

/-- Blanks and line ends behind a backslash are stuck where no line end comes. -/
theorem lenient_continuationEnd :
    Lenient (· = []) (fun text => ∀ c ∈ text, isLineBlank c = true) nothing (do
      blanks
      newline
      let _ ← many (newline <|> do let _ ← takeIf isLineBlank)) := by
  have ended : Lenient (· = []) (· = []) nothing (do
      newline
      let _ ← many (newline <|> do let _ ← takeIf isLineBlank)) :=
    (lenient_newline (· = []) (· = []) rfl).bind (fun _ => steady_lineBlanks)
      (fun _ _ rest _ empty => by
        subst empty
        exact .dead rfl (List.suffix_refl []) rfl)
      fun _ _ => ⟨(), rfl, rfl⟩
  exact exact_blanks.bind_lenient (fun _ => ended) fun text _ rest taken empty => by
    subst empty
    obtain ⟨_, left⟩ := Prod.mk.inj (Option.some.inj taken)
    exact List.dropWhile_eq_nil_iff.mp left

/-- A line end that is left out takes the line feed at the end of the text. -/
theorem lenient_lineContinuation :
    Lenient (· = []) ContinuationDead nothing lineContinuation :=
  (exact_takeChar (by decide)).bind_lenient (fun _ => lenient_continuationEnd)
    fun _ _ rest taken blank => .inr ⟨rest, takeChar_eq_some_iff.mp taken, blank⟩

/-- A line end that is left out has its backslash. -/
theorem advances_lineContinuation : Advances lineContinuation :=
  (advances_takeChar '\\').bind fun _ => lenient_continuationEnd.within

/-- A backslash and blanks are no escape. -/
theorem ContinuationDead.escape_eq_none {text : Text} (dead : ContinuationDead text) :
    escape text = none := by
  rcases dead with rfl | ⟨_ | ⟨c, more⟩, rfl, blank⟩
  · rfl
  · rfl
  · have first := blank c (by simp)
    simp only [isLineBlank, Bool.or_eq_true, decide_eq_true_eq] at first
    rcases first with rfl | rfl <;> rfl

/-- What is stuck behind a backslash begins with it. -/
theorem ContinuationDead.head {text : Text} (dead : ContinuationDead text) :
    ∀ c ∈ text.head?, c = '\\' := by
  rcases dead with rfl | ⟨spaces, rfl, _⟩
  · simp
  · simp

/-- The content of a string of several lines between double quotes. -/
def longBasicContent : Reader Text :=
  (do return [← takeIf fun c => isPlain c && c ≠ '\"' && c ≠ '\\']) <|>
    (do lineContinuation; pure []) <|>
    (do return [← escape])

/-- A plain character is taken as a text of its own. -/
theorem consuming_plain {condition : Char → Bool} (stop : condition '\n' = false) :
    Consuming (do return [← takeIf condition]) :=
  (consuming_takeIf stop).bind fun _ => exact_pure _

/-- Content between double quotes is at least a character, a line continuation or an escape. -/
theorem advances_longBasicContent : Advances longBasicContent :=
  (consuming_plain (by decide)).advances.orElse
    ((advances_lineContinuation.bind fun _ => (exact_pure _).within).orElse
      (consuming_escape.bind fun _ => exact_pure _).advances)

/-- Content between double quotes is lenient, as a line continuation may take the line feed. -/
theorem lenient_longBasicContent :
    Lenient (StringDead '\"' longBasicContent) (StringDead '\"' longBasicContent) nothing
      longBasicContent := by
  have empty : StringDead '\"' longBasicContent [] := ⟨rfl, by simp⟩
  have continued : Lenient (StringDead '\"' longBasicContent) ContinuationDead nothing
      (do lineContinuation; pure ([] : Text)) :=
    lenient_lineContinuation.bind_pure (fun _ ended => ended ▸ empty) (fun _ _ _ => rfl)
      fun _ _ => rfl
  have escaped : Consuming (do return [← escape]) := consuming_escape.bind fun _ => exact_pure _
  refine ((consuming_plain (by decide)).runs.steady.orElse_lenient
    (continued.orElse escaped.runs.steady.lenient fun text dead =>
      ⟨dead, bind_of_none dead.escape_eq_none _⟩)).mono fun text dead failed => ⟨failed, ?_⟩
  intro c first
  rw [dead.head c first]
  decide

/-- A string of several lines between double quotes is read exactly. -/
theorem exact_longBasicString : Exact longBasicString :=
  exact_longString (by decide) lenient_longBasicContent advances_longBasicContent

/-- A string of several lines between single quotes is read exactly. -/
theorem exact_longLiteralString : Exact longLiteralString :=
  have plain : Consuming (do return [← takeIf fun c => isPlain c && c ≠ '\'']) :=
    consuming_plain (by decide)
  exact_longString (by decide) plain.runs.steady.lenient plain.advances

/-- A string of each of the four kinds is read exactly. -/
theorem exact_string : Exact string :=
  exact_longBasicString.orElse
    (exact_basicString.orElse (exact_longLiteralString.orElse exact_literalString))

/-! ## Numbers -/

/-- Digits and the underscores between them stop in front of a line feed. -/
theorem exact_digitRun {isDigit : Char → Bool} (stop : isDigit '\n' = false) :
    Exact (digitRun isDigit) :=
  (exact_takeIf stop).bind fun first =>
    ((consuming_takeIf stop).orElse
      ((consuming_takeChar (show '_' ≠ '\n' by decide)).seqRight
        (exact_takeIf stop))).many.bind fun more => exact_pure (first :: more)

/-- A sign may be missing, and no line feed is one. -/
theorem exact_sign : Exact sign :=
  ((exact_takeChar (by decide)).bind fun _ => exact_pure true).orElse
    (((exact_takeChar (by decide)).bind fun _ => exact_pure false).orElse
      (exact_pure false))

/-- The digits of a whole number are a single zero, or begin with another digit. -/
theorem wholeDigits_apply (text : Text) :
    wholeDigits text =
      (if text.head? = some '0' then (do takeChar '0'; pure ['0'])
        else digitRun Text.isAsciiDigit : Reader Text) text := by
  refine (bind_of_some (show peek? text = some (text.head?, text) from rfl) _).trans
    (congrFun ?_ text)
  by_cases zero : text.head? = some '0'
  · rw [if_pos zero, zero]
    rfl
  · rw [if_neg zero]
    split
    · rename_i first
      exact absurd first zero
    · rfl

/-- Looking at the first character of a text takes nothing. -/
theorem exact_wholeDigits : Exact wholeDigits := by
  intro text clean
  have head : (text ++ ['\n']).head? = some '0' ↔ text.head? = some '0' := by
    cases text <;> simp
  have zero : Exact (do takeChar '0'; pure ['0']) :=
    (exact_takeChar (by decide)).bind fun _ => exact_pure _
  rw [wholeDigits_apply, wholeDigits_apply, if_congr head rfl rfl]
  exact zero.ite (exact_digitRun (by decide)) text clean

/-- Whether a whole number is in bounds does not depend on what follows. -/
theorem exact_boundedInteger (negative : Bool) (magnitude : Nat) :
    Exact (boundedInteger negative magnitude) :=
  (exact_pure _).ite exact_failure

/-- A whole number in another base stops in front of a line feed. -/
theorem exact_basedInteger {announced : Text} (single : '\n' ∉ announced) {base : Nat}
    (stop : Text.digitValue? base '\n' = none) : Exact (basedInteger announced base) :=
  (exact_takeText single).bind fun _ => (exact_digitRun (by rw [stop]; rfl)).bind fun _ =>
    exact_boundedInteger _ _

/-- A whole number is read exactly, in each of the four bases. -/
theorem exact_integer : Exact integer :=
  (exact_basedInteger (by decide) rfl).orElse ((exact_basedInteger (by decide) rfl).orElse
    ((exact_basedInteger (by decide) rfl).orElse (exact_sign.bind fun _ =>
      exact_wholeDigits.bind fun _ => exact_boundedInteger _ _)))

/-- A power of ten stops in front of a line feed. -/
theorem exact_power : Exact power :=
  (exact_takeIf (by decide)).bind fun _ => exact_sign.bind fun _ =>
    (exact_digitRun (by decide)).bind fun _ => exact_pure _

/-- A number with decimal places or a power of ten is read exactly. -/
theorem exact_decimalFloat : Exact decimalFloat :=
  have places : Exact (do
      takeChar '.'
      let places ← digitRun Text.isAsciiDigit
      let power ← maybe power
      pure ('.' :: places ++ power.getD [])) :=
    (exact_takeChar (by decide)).bind fun _ => (exact_digitRun (by decide)).bind fun _ =>
      exact_power.maybe.bind fun _ => exact_pure _
  exact_sign.bind fun _ => exact_wholeDigits.bind fun _ =>
    (exact_power.orElse places).bind fun _ => (exact_ofOption _).bind fun _ =>
      exact_failure.ite (exact_pure _)

/-- The infinities and what is not a number are read exactly. -/
theorem exact_specialFloat : Exact specialFloat :=
  exact_sign.bind fun _ =>
    ((exact_takeText (by decide)).bind fun _ => exact_pure _).orElse
      ((exact_takeText (by decide)).bind fun _ => exact_pure _)

/-- Each way to write a float is read exactly. -/
theorem exact_float : Exact float :=
  exact_decimalFloat.orElse exact_specialFloat

/-! ## Dates and times -/

/-- A number of a fixed length holds no line feed, so one at the end does not complete it. -/
theorem exact_fixedNumber (count low high : Nat) : Exact (fixedNumber count low high) := by
  intro text _
  rcases take_append_lineFeed text count with ⟨_, same, left⟩ | ⟨short, whole⟩
  · simp only [fixedNumber, same, left]
    split
    · split
      · exact .live _ (List.drop_suffix count text)
      · exact .failed
    · exact .failed
  · have feed : ¬ (text ++ ['\n']).all Text.isAsciiDigit = true := by simp [Text.isAsciiDigit]
    have missing : fixedNumber count low high text = none := if_neg fun both => short both.1
    have missingMore : fixedNumber count low high (text ++ ['\n']) = none := by
      simp only [fixedNumber, whole]
      exact if_neg fun both => feed both.2
    rw [missing, missingMore]
    exact .failed

/-- A date is read exactly. -/
theorem exact_date : Exact date :=
  (exact_fixedNumber _ _ _).bind fun _ => (exact_takeChar (by decide)).bind fun _ =>
    (exact_fixedNumber _ _ _).bind fun _ => (exact_takeChar (by decide)).bind fun _ =>
      (exact_fixedNumber _ _ _).bind fun _ => exact_pure _

/-- A part of a second stops in front of a line feed. -/
theorem exact_nanoseconds : Exact nanoseconds :=
  (exact_takeChar (by decide)).bind fun _ =>
    (exact_takeWhile (by decide)).bind fun _ => (exact_ofOption _).bind fun _ =>
      exact_failure.ite (exact_pure _)

/-- A time is read exactly, with a part of a second or without. -/
theorem exact_time : Exact time :=
  (exact_fixedNumber _ _ _).bind fun _ => (exact_takeChar (by decide)).bind fun _ =>
    (exact_fixedNumber _ _ _).bind fun _ => (exact_takeChar (by decide)).bind fun _ =>
      (exact_fixedNumber _ _ _).bind fun _ => exact_nanoseconds.maybe.bind fun _ => exact_pure _

/-- An offset is read exactly. -/
theorem exact_offset : Exact offset :=
  ((exact_takeIf (by decide)).bind fun _ => exact_pure _).orElse
    ((exact_takeIf (by decide)).bind fun _ => (exact_fixedNumber _ _ _).bind fun _ =>
      (exact_takeChar (by decide)).bind fun _ => (exact_fixedNumber _ _ _).bind fun _ =>
        exact_pure _)

/-- A date, a time, or both are read exactly, with an offset or without. -/
theorem exact_moment : Exact moment := by
  have behind : Exact (do
      let _ ← takeIf fun c => c = 'T' || c = 't' || c = ' '
      let time ← time
      let offset ← maybe offset
      pure (time, offset)) :=
    (exact_takeIf (by decide)).bind fun _ => exact_time.bind fun _ =>
      exact_offset.maybe.bind fun _ => exact_pure _
  refine (exact_date.bind fun _ => behind.maybe.bind fun found => ?_).orElse
    (exact_time.bind fun _ => exact_pure _)
  split
  · exact exact_pure _
  · exact exact_pure _

end HtmlTemplate.Toml
