import HtmlTemplate.Decimal.Numeral
import HtmlTemplate.Text.Basic

/-!
# Literal text of a template

A chunk keeps a literal text twice: as it was written, with backslash escapes, and
as what the escapes stand for. Decoding walks once over the written form; an escape
that cannot be decoded is located by the byte of its backslash.
-/

namespace HtmlTemplate

/-- Why an escape cannot be decoded. -/
inductive EscapeFault where
  /-- The text ends with a backslash. -/
  | endOfText
  /-- Fewer hexadecimal digits follow than the escape needs. -/
  | truncated (digits : Nat)
  /-- The escape gives a number that is not a character. -/
  | notACharacter (code : Nat)
deriving DecidableEq, Repr

/-- An escape that cannot be decoded, with the byte of its backslash. -/
structure EscapeError where
  position : Nat
  fault : EscapeFault
deriving DecidableEq, Repr

/-- The words for an escape that cannot be decoded. -/
def EscapeFault.message : EscapeFault → String
  | .endOfText => "\\ at end of string"
  | .truncated digits => "truncated escape, expected " ++ toString digits ++ " hex digits"
  | .notACharacter code =>
    "U+" ++ String.ofList ((Decimal.numeral 16 code).map Text.asciiUpper) ++
      " is not a valid character"

/-- The message for an escape that cannot be decoded. -/
def EscapeError.message (error : EscapeError) : String :=
  "invalid escape at byte " ++ toString error.position ++ ": " ++ error.fault.message

namespace Escape

/-- The character with a given number. -/
def codePoint (code : Nat) : Except EscapeFault Char :=
  if code.isValidChar then .ok (Char.ofNat code) else .error (.notACharacter code)

/-- The character given by a fixed number of hexadecimal digits, and the rest. -/
def takeHexadecimal (count : Nat) (text : Text) : Except EscapeFault (Char × Text) :=
  let digits := text.take count
  match Text.toNat? 16 digits with
  | some code =>
    if digits.length < count then .error (.truncated count)
    else (codePoint code).map fun c => (c, text.drop count)
  | none => .error (.truncated count)

/-- The octal digits at the beginning of a text, at most `count` of them, and the
rest. -/
def takeOctal : Nat → Text → Text × Text
  | 0, text => ([], text)
  | _ + 1, [] => ([], [])
  | count + 1, c :: rest =>
    if '0' ≤ c ∧ c ≤ '7' then
      let (digits, rest) := takeOctal count rest
      (c :: digits, rest)
    else ([], c :: rest)

/-- The character of an escape of two characters, if `c` behind a backslash makes
one. -/
def simple? (c : Char) : Option Char :=
  if c = '\\' then some '\\'
  else if c = '\'' then some '\''
  else if c = '\"' then some '\"'
  else if c = 'a' then some '\x07'
  else if c = 'b' then some '\x08'
  else if c = 'f' then some '\x0c'
  else if c = 'n' then some '\n'
  else if c = 'r' then some '\r'
  else if c = 't' then some '\t'
  else if c = 'v' then some '\x0b'
  else none

/-- What the escape behind a backslash stands for, and the rest. A line break behind
the backslash stands for nothing; an unknown escape stands for itself. -/
def takeEscape : Text → Except EscapeFault (Text × Text)
  | [] => .error .endOfText
  | c :: rest =>
    if c = '\n' then .ok ([], rest)
    else
      match simple? c with
      | some decoded => .ok ([decoded], rest)
      | none =>
        if '0' ≤ c ∧ c ≤ '7' then
          let (digits, rest) := takeOctal 3 (c :: rest)
          (codePoint ((Text.toNat? 8 digits).getD 0)).map fun c => ([c], rest)
        else if c = 'x' then (takeHexadecimal 2 rest).map fun (c, rest) => ([c], rest)
        else if c = 'u' then (takeHexadecimal 4 rest).map fun (c, rest) => ([c], rest)
        else if c = 'U' then (takeHexadecimal 8 rest).map fun (c, rest) => ([c], rest)
        else .ok (['\\', c], rest)

/-- Reading hexadecimal digits never lengthens the text. -/
theorem takeHexadecimal_length {count : Nat} {text rest : Text} {c : Char}
    (taken : takeHexadecimal count text = .ok (c, rest)) : rest.length ≤ text.length := by
  simp only [takeHexadecimal] at taken
  split at taken
  · split at taken
    · simp at taken
    · simp only [Except.map] at taken
      split at taken
      · simp at taken
      · simp only [Except.ok.injEq, Prod.mk.injEq] at taken
        rw [← taken.2]
        simp
  · simp at taken

/-- Reading octal digits never lengthens the text. -/
theorem takeOctal_length (count : Nat) (text : Text) :
    (takeOctal count text).2.length ≤ text.length := by
  induction count generalizing text with
  | zero => simp [takeOctal]
  | succ count ih =>
    cases text with
    | nil => simp [takeOctal]
    | cons c rest =>
      simp only [takeOctal]
      split
      · have := ih rest
        simp only [List.length_cons]
        omega
      · simp

/-- Reading an octal digit shortens the text. -/
theorem takeOctal_cons_length {count : Nat} {c : Char} {rest : Text}
    (octal : '0' ≤ c ∧ c ≤ '7') :
    (takeOctal (count + 1) (c :: rest)).2.length ≤ rest.length := by
  simp only [takeOctal, if_pos octal]
  exact takeOctal_length count rest

/-- What is left behind an escape is shorter than what stood behind its backslash. -/
theorem takeEscape_length {text decoded rest : Text}
    (taken : takeEscape text = .ok (decoded, rest)) : rest.length < text.length := by
  have mapped {α β : Type} {result : Except EscapeFault α} {f : α → β} {value : β}
      (equation : result.map f = .ok value) : ∃ inner, result = .ok inner ∧ f inner = value := by
    cases result with
    | error fault => simp [Except.map] at equation
    | ok inner => exact ⟨inner, rfl, by simpa [Except.map] using equation⟩
  have hexadecimal {count : Nat} {tail : Text}
      (equation : (takeHexadecimal count tail).map (fun (c, rest) => ([c], rest)) =
        .ok (decoded, rest)) : rest.length < tail.length + 1 := by
    obtain ⟨⟨c, left⟩, read, pair⟩ := mapped equation
    have shorter := takeHexadecimal_length read
    simp only [Prod.mk.injEq] at pair
    rw [← pair.2]
    omega
  cases text with
  | nil => simp [takeEscape] at taken
  | cons c tail =>
    simp only [takeEscape] at taken
    simp only [List.length_cons]
    split at taken
    · simp only [Except.ok.injEq, Prod.mk.injEq] at taken
      rw [← taken.2]
      omega
    · split at taken
      · simp only [Except.ok.injEq, Prod.mk.injEq] at taken
        rw [← taken.2]
        omega
      · split at taken
        · rename_i octal
          obtain ⟨_, _, pair⟩ := mapped taken
          have shorter : (takeOctal 3 (c :: tail)).2.length ≤ tail.length :=
            takeOctal_cons_length octal
          simp only [Prod.mk.injEq] at pair
          rw [← pair.2]
          omega
        · split at taken
          · exact hexadecimal taken
          · split at taken
            · exact hexadecimal taken
            · split at taken
              · exact hexadecimal taken
              · simp only [Except.ok.injEq, Prod.mk.injEq] at taken
                rw [← taken.2]
                omega

/-- The decoded form of a text that begins at a given byte. -/
def decodeFrom (position : Nat) (text : Text) : Except EscapeError Text :=
  match text with
  | [] => .ok []
  | c :: rest =>
    if c = '\\' then
      match taken : takeEscape rest with
      | .error fault => .error ⟨position, fault⟩
      | .ok (decoded, rest') =>
        have := takeEscape_length taken
        let consumed := Text.byteLength (c :: rest) - Text.byteLength rest'
        (decodeFrom (position + consumed) rest').map (decoded ++ ·)
    else (decodeFrom (position + c.utf8Size) rest).map (c :: ·)
termination_by text.length
decreasing_by all_goals (simp only [List.length_cons]; omega)

/-- What a text with backslash escapes stands for. -/
def decode (text : Text) : Except EscapeError Text :=
  decodeFrom 0 text

end Escape

/-- A literal text: as it was written, and decoded. -/
structure Chunk where
  /-- The text as it was written. -/
  raw : Text := []
  /-- The text that is meant. -/
  decoded : Text := []
deriving DecidableEq, Repr

namespace Chunk

/-- A text that needs no decoding. -/
def ofText (text : Text) : Chunk :=
  ⟨text, text⟩

/-- A text written with backslash escapes. -/
def decode (raw : Text) : Except EscapeError Chunk :=
  (Escape.decode raw).map fun decoded => ⟨raw, decoded⟩

/-- Whether the text that is meant is empty. -/
def isEmpty (chunk : Chunk) : Bool :=
  chunk.decoded.isEmpty

/-- Two chunks as one, in both forms. -/
def append (first second : Chunk) : Chunk :=
  ⟨first.raw ++ second.raw, first.decoded ++ second.decoded⟩

end Chunk

end HtmlTemplate
