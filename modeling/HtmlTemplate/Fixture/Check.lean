import HtmlTemplate.Fixture.Frontmatter
import HtmlTemplate.Markdown.CodeBlock
import HtmlTemplate.Resolve.Fill
import HtmlTemplate.Template.Source

/-!
# The check of a fixture

A fixture passes if its template does what its head and its body expect: it renders to the
expected markup, it fails with the expected error, or its source is faulty.
-/

namespace HtmlTemplate.Fixture

/-- Why a fixture fails. -/
inductive Failure where
  /-- The file cannot be read, for a reason that has a message. -/
  | unreadable (reason : String)
  | frontmatter (fault : FrontmatterFault)
  | noTemplate
  /-- The source of the template is not faulty although it should be. -/
  | sourceAccepted
  /-- The source of the template is faulty although it should not be. -/
  | sourceRefused (messages : List String)
  /-- The template fails with another error than expected. -/
  | otherError (expected : Text) (got : String)
  /-- The template renders although an error is expected. -/
  | rendered (expected markup : Text)
  /-- The template fails although no error is expected. -/
  | error (message : String)
  | noExpectation
  | mismatch (expected actual : Text)
deriving DecidableEq, Repr

/-- Why a fixture fails, in words. -/
def Failure.message : Failure → Text
  | .unreadable reason => ("cannot read file: " ++ reason).toList
  | .frontmatter fault => ("frontmatter error: " ++ fault.message).toList
  | .noTemplate => "no ```template block".toList
  | .sourceAccepted => "expected parse error, but parsing succeeded".toList
  | .sourceRefused messages =>
    ("unexpected parse error: " ++ String.intercalate "; " messages).toList
  | .otherError expected got =>
    "expected error containing \"".toList ++ expected ++ ("\", got: " ++ got).toList
  | .rendered expected markup =>
    "expected error containing \"".toList ++ expected ++ "\", but rendered: ".toList ++ markup
  | .error message => ("unexpected error: " ++ message).toList
  | .noExpectation => "no ```expected block".toList
  | .mismatch expected actual =>
    "output mismatch\n  expected: ".toList ++ expected ++ "\n  actual:   ".toList ++ actual

/-- What comes out of the check of a fixture. -/
structure Verdict where
  /-- What the fixture is about, if it says so. -/
  description : Option Text := none
  /-- Why the fixture fails; nothing if it passes. -/
  failure : Option Failure := none
deriving DecidableEq, Repr

/-- The content of the first code block in a language, without the end of its last line. -/
def block? (language : String) (blocks : List Markdown.CodeBlock) : Option Text :=
  (blocks.find? (·.language = language.toList)).map fun block =>
    if block.content.getLast? = some '\n' then block.content.dropLast else block.content

/-- The rule for attributes that a fixture asks for. -/
def Settings.policy (settings : Settings) : Resolve.MergePolicy :=
  if settings.callSiteWins then .callSiteWins else .nodeWins

/-- Why what came of a template is not what is expected, if it is not. Blanks at either end
of the markup do not matter. -/
def compare (expectedError expected : Option Text) (result : Except HtmlTemplate.Error Text) :
    Option Failure :=
  match expectedError, expected, result with
  | some part, _, .error error =>
    if Text.occurs part error.message.toList then none
    else some (.otherError part error.message)
  | some part, _, .ok markup => some (.rendered part markup)
  | none, _, .error error => some (.error error.message)
  | none, none, .ok _ => some .noExpectation
  | none, some expected, .ok markup =>
    if Text.trim expected = Text.trim markup then none
    else some (.mismatch (Text.trim expected) (Text.trim markup))

/-- Why a fixture with given settings and a given body fails, if it does. -/
def failure? (settings : Settings) (body : Text) : Option Failure :=
  let blocks := Markdown.codeBlocks body
  match block? "template" blocks with
  | none => some .noTemplate
  | some source =>
    match Template.parse settings.context source, settings.expectsSourceError with
    | .error _, true => none
    | .ok _, true => some .sourceAccepted
    | .error errors, false => some (.sourceRefused (errors.map (·.fault.message)))
    | .ok template, false =>
      compare settings.expectedError (block? "expected" blocks)
        ((Resolve.renderPlain template.items settings.policy).map Markup.Node.render)

/-- The verdict on a fixture, by a reader of TOML documents for its head. -/
def check (readToml : Text → Option Toml.Table) (text : Text) : Verdict :=
  match readFixture readToml text with
  | .error fault => { failure := some (.frontmatter fault) }
  | .ok (settings, body) =>
    { description := settings.description, failure := failure? settings body }

end HtmlTemplate.Fixture
