import HtmlTemplate.Template.SourceError
import HtmlTemplate.Text.Blank
import HtmlTemplate.Text.Letter

/-!
# Templates read from source text

In source text a brace opens an interpolation, and a doubled brace is a literal one.
Reading goes in two steps: `scan` cuts the source into pieces, each a text, an
interpolation or a fault, and `parse` makes a template of the pieces, or reports all
faults among them.
-/

namespace HtmlTemplate.Template

/-! ## Expressions -/

/-- Whether a text is a name: a letter or an underscore, then letters, numbers and
underscores. -/
def isName : Text → Bool
  | [] => false
  | c :: rest =>
    (Text.isAlphabetic c || c = '_') && rest.all fun c => Text.isAlphanumeric c || c = '_'

/-- Whether a text is an index into a list: one or more ASCII digits. -/
def isIndex (segment : Text) : Bool :=
  !segment.isEmpty && segment.all Text.isAsciiDigit

/-- Whether a text is a dotted path: a name, then names and indices. -/
def isPath (path : Text) : Bool :=
  match Text.splitOn '.' path with
  | [] => false
  | first :: rest => isName first && rest.all fun segment => isName segment || isIndex segment

/-- The value a dotted path leads to from the variables of a context. -/
def lookup? (context : Dictionary Value) (path : Text) : Option Value :=
  match Text.splitOnce '.' path with
  | some (first, rest) => (context.get? first).bind (·.lookup? rest)
  | none => context.get? path

/-- The conversion that is written behind an exclamation mark: one of three letters,
possibly between blanks. -/
def readConversion? (written : Text) : Option Format.Conversion :=
  match Text.trim written with
  | [c] => Format.Conversion.ofChar? c
  | _ => none

/-- The path and the conversion in front of a specifier. -/
def readHead (head : Text) : Except SourceFault (Text × Option Format.Conversion) :=
  match Text.splitOnce '!' head with
  | none => .ok (Text.trim head, none)
  | some (path, written) =>
    match readConversion? written with
    | none => .error (.badConversion written)
    | some conversion => .ok (Text.trim path, some conversion)

/-- The interpolation between two braces, holding its value from the context. The
first colon begins the specifier, and the first exclamation mark in front of it the
conversion. -/
def readInterpolation (context : Dictionary Value) (inner : Text) :
    Except SourceFault Interpolation :=
  let (head, spec) := match Text.splitOnce ':' inner with
    | some (head, spec) => (head, some spec)
    | none => (inner, none)
  match readHead head with
  | .error fault => .error fault
  | .ok (path, conversion) =>
    if !isPath path then .error (.unsupportedExpression path)
    else
      match lookup? context path with
      | none => .error (.undefinedVariable path)
      | some value => .ok { expr := path, source := .held value, conversion, spec }

/-! ## Pieces -/

/-- A piece of source text. -/
inductive Piece where
  /-- A literal text, with doubled braces read as single ones. -/
  | text (text : Text) (span : Span)
  | interpolation (interpolation : Interpolation) (span : Span)
  | fault (error : SourceError)

/-- The text up to the brace that closes `depth + 1` open ones, and the text behind
it. -/
def untilClosed (depth : Nat) : Text → Option (Text × Text)
  | [] => none
  | c :: rest =>
    let more (depth : Nat) := (untilClosed depth rest).map fun (inner, behind) =>
      (c :: inner, behind)
    if c = '}' then
      match depth with
      | 0 => some ([], rest)
      | depth + 1 => more depth
    else if c = '{' then more (depth + 1)
    else more depth

/-- What stands behind a closing brace is shorter than what stands behind the one that
it closes. -/
theorem untilClosed_length {depth : Nat} {text inner behind : Text}
    (closed : untilClosed depth text = some (inner, behind)) :
    behind.length < text.length := by
  induction text generalizing depth inner with
  | nil => simp [untilClosed] at closed
  | cons c rest ih =>
    have onward {depth : Nat} (closed : (untilClosed depth rest).map
        (fun (inner, behind) => (c :: inner, behind)) = some (inner, behind)) :
        behind.length < (c :: rest).length := by
      obtain ⟨⟨inner', behind'⟩, found, pair⟩ := Option.map_eq_some_iff.mp closed
      obtain ⟨_, rfl⟩ := Prod.mk.inj pair
      have shorter := ih found
      simp only [List.length_cons]
      omega
    simp only [untilClosed] at closed
    split at closed
    · split at closed
      · simp only [Option.some.injEq, Prod.mk.injEq] at closed
        simp [← closed.2]
      · exact onward closed
    · split at closed
      · exact onward closed
      · exact onward closed

/-- The text that has been gathered in reverse, unless it is empty. -/
def gatheredText (gathered : Text) (span : Span) : List Piece :=
  if gathered.isEmpty then [] else [.text gathered.reverse span]

/-- The pieces of what is left of a source at a given byte. The literal text since
`start` is gathered in reverse. -/
def scanFrom (context : Dictionary Value) (position start : Nat) (gathered : Text)
    (source : Text) : List Piece :=
  match source with
  | [] => gatheredText gathered ⟨start, position⟩
  | '{' :: '{' :: rest => scanFrom context (position + 2) start ('{' :: gathered) rest
  | '}' :: '}' :: rest => scanFrom context (position + 2) start ('}' :: gathered) rest
  | '{' :: rest =>
    gatheredText gathered ⟨start, position⟩ ++
      match closed : untilClosed 0 rest with
      | none =>
        [.fault ⟨.unclosedBrace, ⟨position, position + Text.byteLength ('{' :: rest)⟩⟩]
      | some (inner, behind) =>
        have := untilClosed_length closed
        let stop := position + Text.byteLength inner + 2
        let piece := match readInterpolation context inner with
          | .ok interpolation => .interpolation interpolation ⟨position, stop⟩
          | .error fault => .fault ⟨fault, ⟨position, stop⟩⟩
        piece :: scanFrom context stop stop [] behind
  | '}' :: rest =>
    .fault ⟨.strayBrace, ⟨position, position + 1⟩⟩ ::
      scanFrom context (position + 1) start gathered rest
  | c :: rest => scanFrom context (position + c.utf8Size) start (c :: gathered) rest
termination_by source.length
decreasing_by all_goals (simp only [List.length_cons]; omega)

/-- The pieces of a source text. -/
def scan (context : Dictionary Value) (source : Text) : List Piece :=
  scanFrom context 0 0 [] source

/-- The faults among some pieces, in order. -/
def faults (pieces : List Piece) : List SourceError :=
  pieces.filterMap fun
    | .fault error => some error
    | _ => none

/-- Texts and interpolations in turn, each with its place; `position` is where the next
one begins. Where a text is missing there is an empty one. -/
def alternate (position : Nat) : List Piece → List (Item × Span)
  | [] => [(.text {}, ⟨position, position⟩)]
  | .text text span :: .interpolation interpolation span' :: pieces =>
    (.text (.ofText text), span) :: (.interpolation interpolation, span') ::
      alternate span'.stop pieces
  | .text text span :: _ => [(.text (.ofText text), span)]
  | .interpolation interpolation span :: pieces =>
    (.text {}, ⟨span.start, span.start⟩) :: (.interpolation interpolation, span) ::
      alternate span.stop pieces
  | .fault _ :: pieces => alternate position pieces

/-- The template of a source text, with its values from a context, or all faults in
it. -/
def parse (context : Dictionary Value) (source : Text) : Except (List SourceError) Template :=
  let pieces := scan context source
  let errors := faults pieces
  if errors.isEmpty then
    let items := alternate 0 pieces
    .ok ((ofItems (items.map Prod.fst)).withSpans (items.map Prod.snd))
  else .error errors

end HtmlTemplate.Template
