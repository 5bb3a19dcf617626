/-!
# Text

A text is a list of characters, so that every function on it is a recursion on
data. Positions that are shown to a user count the bytes of the text's UTF-8
form; everything else counts characters.
-/

namespace HtmlTemplate

/-- A text is the list of its characters. -/
abbrev Text := List Char

namespace Text

/-- The number of bytes of the UTF-8 form of a text. -/
def byteLength (text : Text) : Nat :=
  text.foldr (fun c size => c.utf8Size + size) 0

@[simp] theorem byteLength_nil : byteLength [] = 0 := rfl

@[simp] theorem byteLength_cons (c : Char) (rest : Text) :
    byteLength (c :: rest) = c.utf8Size + byteLength rest := rfl

@[simp] theorem byteLength_append (left right : Text) :
    byteLength (left ++ right) = byteLength left + byteLength right := by
  induction left with
  | nil => simp
  | cons c left ih => simp [ih, Nat.add_assoc]

/-- The text before the first `mark`, and the text after it. -/
def splitOnce (mark : Char) : Text → Option (Text × Text)
  | [] => none
  | c :: rest =>
    if c = mark then some ([], rest)
    else (splitOnce mark rest).map fun (before, after) => (c :: before, after)

/-- All pieces between the occurrences of `mark`; a text without one is its own
only piece. -/
def splitOn (mark : Char) : Text → List Text
  | [] => [[]]
  | c :: rest =>
    if c = mark then [] :: splitOn mark rest
    else
      match splitOn mark rest with
      | [] => [[c]]
      | piece :: pieces => (c :: piece) :: pieces

/-- The text less a carriage return at its end. -/
def dropReturn (text : Text) : Text :=
  if text.getLast? = some '\r' then text.dropLast else text

/-- The lines whose texts a line feed separates. A carriage return in front of a line feed
belongs to the line end, and nothing behind the last line feed is no line. -/
def linesOf : List Text → List Text
  | [] => []
  | [last] => if last.isEmpty then [] else [last]
  | line :: next :: more => dropReturn line :: linesOf (next :: more)

/-- The lines of a text. -/
def lines (text : Text) : List Text :=
  linesOf (splitOn '\n' text)

/-- The rest of a text behind a given beginning. -/
def dropPrefix? : Text → Text → Option Text
  | [], text => some text
  | _ :: _, [] => none
  | p :: ps, c :: rest => if p = c then dropPrefix? ps rest else none

/-- The text before the first occurrence of `needle`, and the text from that
occurrence on. -/
def cutAt? (needle : Text) : Text → Option (Text × Text)
  | [] => if needle.isEmpty then some ([], []) else none
  | c :: rest =>
    if needle.isPrefixOf (c :: rest) then some ([], c :: rest)
    else (cutAt? needle rest).map fun (before, found) => (c :: before, found)

/-- Whether `needle` occurs in the text. -/
def occurs (needle text : Text) : Bool :=
  (cutAt? needle text).isSome

/-- The text less the longest end whose characters satisfy `drop`. -/
def dropEndWhile (drop : Char → Bool) (text : Text) : Text :=
  (text.reverse.dropWhile drop).reverse

/-- The text less the longest beginning and the longest end whose characters
satisfy `drop`. -/
def trimWhile (drop : Char → Bool) (text : Text) : Text :=
  dropEndWhile drop (text.dropWhile drop)

/-- The texts one after another with `separator` between neighbours. -/
def join (separator : Text) : List Text → Text
  | [] => []
  | [text] => text
  | text :: more => text ++ separator ++ join separator more

/-- The number `c` stands for as an ASCII digit of a base up to sixteen. -/
def digitValue? (base : Nat) (c : Char) : Option Nat :=
  let value :=
    if '0' ≤ c ∧ c ≤ '9' then c.toNat - '0'.toNat
    else if 'a' ≤ c ∧ c ≤ 'f' then c.toNat - 'a'.toNat + 10
    else if 'A' ≤ c ∧ c ≤ 'F' then c.toNat - 'A'.toNat + 10
    else base
  if value < base then some value else none

/-- Whether `c` is one of the ten ASCII digits. -/
def isAsciiDigit (c : Char) : Bool :=
  '0' ≤ c && c ≤ '9'

/-- Whether `c` is one of the fifty-two ASCII letters. -/
def isAsciiLetter (c : Char) : Bool :=
  ('a' ≤ c && c ≤ 'z') || ('A' ≤ c && c ≤ 'Z')

/-- The ASCII small letter of an ASCII capital; every other character is left
alone. -/
def asciiLower (c : Char) : Char :=
  if 'A' ≤ c ∧ c ≤ 'Z' then Char.ofNat (c.toNat + 32) else c

/-- The ASCII capital of an ASCII small letter; every other character is left
alone. -/
def asciiUpper (c : Char) : Char :=
  if 'a' ≤ c ∧ c ≤ 'z' then Char.ofNat (c.toNat - 32) else c

/-- The number whose digits in the given base are the characters of the text,
most significant first. An empty text is no number, nor is one with any other
character. -/
def toNat? (base : Nat) (digits : Text) : Option Nat :=
  if digits.isEmpty then none
  else digits.foldlM (fun value c => (digitValue? base c).map (value * base + ·)) 0

/-- A number as it is read by a reader that lets a plus sign stand in front and
refuses what exceeds `limit`. -/
def toNatUpTo? (limit base : Nat) (text : Text) : Option Nat :=
  let digits := match text with
    | '+' :: rest => rest
    | _ => text
  (toNat? base digits).filter (· ≤ limit)

end Text

end HtmlTemplate
