import HtmlTemplate.Value.OfToml

/-!
# The head of a fixture

A fixture is a Markdown document about one template. In front of the document stands a
head between two lines of hyphens: a TOML document that says what the template refers to
and what is expected of it.
-/

namespace HtmlTemplate.Fixture

/-- What can be wrong with the head of a fixture. -/
inductive FrontmatterFault where
  /-- The text does not begin with three hyphens. -/
  | noOpening
  /-- No later line begins with three hyphens. -/
  | noClosing
  /-- The head is no TOML document, or a setting has a value of the wrong kind. -/
  | notSettings
deriving DecidableEq, Repr

/-- The message for a fault in the head of a fixture. -/
def FrontmatterFault.message : FrontmatterFault → String
  | .noOpening => "missing opening --- frontmatter delimiter"
  | .noClosing => "missing closing --- frontmatter delimiter"
  | .notSettings => "TOML parse error: not a table of settings"

/-- The rest of a text behind the line end at its beginning, if there is one. -/
def dropLineEnd : Text → Text
  | '\n' :: rest => rest
  | '\r' :: '\n' :: rest => rest
  | text => text

/-- The head and the body of a fixture. Byte order marks in front do not count, nor do
carriage returns at the end of the head. The closing hyphens stand at the beginning of a
line that is not the first of the head. -/
def splitFrontmatter (text : Text) : Except FrontmatterFault (Text × Text) :=
  match Text.dropPrefix? "---".toList (text.dropWhile (· = '\uFEFF')) with
  | none => .error .noOpening
  | some behind =>
    match Text.cutAt? "\n---".toList (dropLineEnd behind) with
    | none => .error .noClosing
    | some (head, rest) => .ok (Text.dropEndWhile (· = '\r') head, rest.drop 4)

/-- What the head of a fixture says. -/
structure Settings where
  /-- What the fixture is about. -/
  description : Option Text := none
  /-- The variables that the template may refer to. -/
  context : Dictionary Value := []
  /-- A part of the message of the error that is expected. -/
  expectedError : Option Text := none
  /-- The source of the template itself is expected to be faulty. -/
  expectsSourceError : Bool := false
  /-- Attributes of a tag win over those of a node put in its place. -/
  callSiteWins : Bool := false

namespace Settings

/-- The text under a key, if the key is there; fails if something else is there. -/
def text? (table : Toml.Table) (key : String) : Option (Option Text) :=
  match table.get? key.toList with
  | none => some none
  | some (.text value) => some (some value)
  | some _ => none

/-- The truth value under a key, which is false if the key is missing; fails if something
else is there. -/
def flag? (table : Toml.Table) (key : String) : Option Bool :=
  match table.get? key.toList with
  | none => some false
  | some (.boolean value) => some value
  | some _ => none

/-- The variables under a key, of which there are none if the key is missing; fails if
something else than a table is there. A date or a time counts as a table without
variables. -/
def context? (table : Toml.Table) (key : String) : Option (Dictionary Value) :=
  match table.get? key.toList with
  | none => some []
  | some (.table entries) => some (Value.mapOfToml entries)
  | some (.moment _) => some []
  | some _ => none

/-- The settings of a table. Other keys do not matter. -/
def ofTable? (table : Toml.Table) : Option Settings := do
  let description ← text? table "description"
  let context ← context? table "context"
  let expectedError ← text? table "expect_error"
  let expectsSourceError ← flag? table "expect_parse_error"
  let callSiteWins ← flag? table "call_site_wins"
  pure { description, context, expectedError, expectsSourceError, callSiteWins }

/-- The settings of a text, by a reader of TOML documents. -/
def read? (readToml : Text → Option Toml.Table) (head : Text) : Option Settings :=
  (readToml head).bind ofTable?

end Settings

/-- The settings and the body of a fixture, by a reader of TOML documents. -/
def readFixture (readToml : Text → Option Toml.Table) (text : Text) :
    Except FrontmatterFault (Settings × Text) := do
  let (head, body) ← splitFrontmatter text
  match Settings.read? readToml head with
  | some settings => pure (settings, body)
  | none => .error .notSettings

end HtmlTemplate.Fixture
