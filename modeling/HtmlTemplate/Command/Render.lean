import HtmlTemplate.Command.Answer
import HtmlTemplate.Command.Arguments
import HtmlTemplate.Command.Assignment
import HtmlTemplate.Command.Files
import HtmlTemplate.Diagnostic.Snippet
import HtmlTemplate.Markup.Dump
import HtmlTemplate.Resolve.Fill
import HtmlTemplate.Template.Source
import HtmlTemplate.Value.OfToml

/-!
# The command to render a template

The command reads a template and its variables from files and gives the markup, or shows
with the source why there is none.
-/

namespace HtmlTemplate.Command

/-- The error line for a path that cannot be read. -/
def unreadable (path : Text) (error : ReadError) : Text :=
  errorLine ("cannot read '".toList ++ path ++ "': ".toList ++ error.message.toList)

/-- The text of a file, or the error line. -/
def readFile (files : Files) (path : Text) : Except Text Text :=
  (files.readText path).mapError (unreadable path)

/-- The variables from a file, or the error line. -/
def readVariables (files : Files) (path : Text) : Except Text (Dictionary Value) := do
  match Toml.context? (← readFile files path) with
  | some context => pure context
  | none => .error (errorLine (path ++ ": not a TOML document".toList))

/-- The variables with those that an argument sets, or the error line. -/
def assign (context : Dictionary Value) (argument : Text) :
    Except Text (Dictionary Value) :=
  match readAssignment argument with
  | .ok (key, value) => .ok (context.insert key value)
  | .error error => .error (errorLine error.message.toList)

/-- The variables for a template: those of a file and then those set by arguments. -/
def variablesOf (files : Files) (request : RenderRequest) :
    Except Text (Dictionary Value) := do
  let context ← match request.context with
    | some path => readVariables files path
    | none => pure []
  request.assignments.foldlM assign context

/-- The diagnostic for a fault in the source of a template. -/
def ofSourceError (error : Template.SourceError) : Diagnostic :=
  { message := error.fault.message.toList
    span := error.span
    label := error.fault.label.toList
    note := error.fault.note.map String.toList }

/-- Tells why a template does not render. A fault in its structure is shown with the item in
which it came to light. -/
def tellError (name source : Text) (template : Template) (error : HtmlTemplate.Error) : Text :=
  match error.item?.bind template.span? with
  | some span => Diagnostic.render name source { message := error.message.toList, span }
  | none => errorLine error.message.toList

/-- What the command gives back, or what it says if it fails. -/
def renderFile (files : Files) (request : RenderRequest) : Except Text Answer := do
  let source ← readFile files request.file
  let context ← variablesOf files request
  let template ← match Template.parse context (Text.trimEnd source) with
    | .ok template => pure template
    | .error errors =>
      .error (errors.flatMap fun error =>
        Diagnostic.render request.file source (ofSourceError error))
  let tell := tellError request.file source template
  if request.checks || request.outlines then
    let tree ← (Skeleton.ofItems template.items).mapError tell
    if request.outlines then pure { output := tree.outline }
    else
      pure { messages := asLines ["ok: ".toList ++ request.file ++ " parsed successfully".toList] }
  else
    let node ← (Resolve.renderPlain template.items request.policy).mapError tell
    pure { output := asLines [if request.dumps then node.dump else node.render] }

/-- The answer to a request to render a template. -/
def RenderRequest.answer (files : Files) (request : RenderRequest) : Answer :=
  match renderFile files request with
  | .ok answer => answer
  | .error messages => { exitCode := 1, messages }

end HtmlTemplate.Command
