import HtmlTemplate.Text.Basic

/-!
# Files

What a command finds under the paths it is given. The command itself sees only a function
from paths to what they lead to; `Entry.find` is that function for a given directory.
-/

namespace HtmlTemplate.Command

/-- A file or a directory. -/
inductive Entry where
  | file (content : ByteArray)
  | directory (entries : List (Text × Entry))
deriving Inhabited

/-- Why a path cannot be read. -/
inductive ReadError where
  /-- Nothing is there. -/
  | notFound
  /-- A file stands where the path goes on. -/
  | notDirectory
  /-- The path leads to a directory. -/
  | isDirectory
  /-- The file is not in UTF-8. -/
  | notText
  /-- Another failure, in the words of the system. -/
  | other (message : String)
deriving DecidableEq, Repr

/-- The message for a path that cannot be read. -/
def ReadError.message : ReadError → String
  | .notFound => "No such file or directory (os error 2)"
  | .notDirectory => "Not a directory (os error 20)"
  | .isDirectory => "Is a directory (os error 21)"
  | .notText => "stream did not contain valid UTF-8"
  | .other message => message

/-- What every path leads to. -/
abbrev Files := Text → Except ReadError Entry

/-- The text of a file. -/
def Entry.readText : Entry → Except ReadError Text
  | .directory _ => .error .isDirectory
  | .file content =>
    match String.fromUTF8? content with
    | some text => .ok text.toList
    | none => .error .notText

/-- The text of the file that a path leads to. -/
def Files.readText (files : Files) (path : Text) : Except ReadError Text :=
  (files path).bind Entry.readText

/-- Follows the steps of a path from an entry on; `outer` are the directories that the entry
lies in, from the innermost one on. Above them is nothing to be found. -/
def Entry.follow (outer : List Entry) (here : Entry) : List Text → Except ReadError Entry
  | [] => .ok here
  | step :: steps =>
    match here with
    | .file _ => .error .notDirectory
    | .directory entries =>
      if step = [] ∨ step = ['.'] then here.follow outer steps
      else if step = ['.', '.'] then
        match outer with
        | [] => (Entry.directory []).follow [] steps
        | parent :: more => parent.follow more steps
      else
        match entries.lookup step with
        | none => .error .notFound
        | some entry => entry.follow (here :: outer) steps

/-- What a path leads to from a directory. A path from the root of all directories leads
nowhere. -/
def Entry.find (directory : Entry) (path : Text) : Except ReadError Entry :=
  match path with
  | [] => .error .notFound
  | '/' :: rest => (Entry.directory []).follow [] (Text.splitOn '/' rest)
  | _ => directory.follow [] (Text.splitOn '/' path)

end HtmlTemplate.Command
