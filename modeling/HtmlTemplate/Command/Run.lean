import HtmlTemplate.Command.Help
import HtmlTemplate.Command.Render
import HtmlTemplate.Command.Test

/-!
# The program

What the program answers to the words of a command line.
-/

namespace HtmlTemplate.Command

/-- The answer to a command line that asks for nothing to be done with files. -/
def Stop.answer : Stop → Answer
  | .usage =>
    { exitCode := 2
      messages := asLines [(Level.usage .program).toList, [],
        "For more information, try '--help'.".toList] }
  | .help level => { output := asLines (level.explanation.map String.toList) }
  | .version => { output := asLines [versionLine.toList] }

/-- The answer to a request. -/
def Request.answer (files : Files) : Request → Answer
  | .render request => request.answer files
  | .test request => request.answer files

/-- The answer to the words of a command line. -/
def run (files : Files) (words : List Text) : Answer :=
  match Request.ofWords words with
  | .ok request => request.answer files
  | .error stop => stop.answer

end HtmlTemplate.Command
