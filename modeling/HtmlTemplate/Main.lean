import HtmlTemplate.Command.Run

/-!
# The outer layer of the program

The program reads what the paths of a request lead to, and prints the answer.
-/

namespace HtmlTemplate.Command

/-- The cause of a failure to read a path. -/
def ReadError.ofFailure (failure : IO.Error) : ReadError :=
  match failure with
  | .noFileOrDirectory .. => .notFound
  | .inappropriateType .. => .notDirectory
  | failure => .other (toString failure)

/-- Reads the fixtures below a directory. What cannot be read is left out. -/
partial def readFixtures (place : IO.FS.DirEntry) : IO (List (Text × Entry)) := do
  let mut entries := []
  for inner in ← place.path.readDir do
    let name := inner.fileName.toList
    try
      if ← inner.path.isDir then
        entries := (name, .directory (← readFixtures inner)) :: entries
      else if Fixture.isFixtureName name then
        entries := (name, .file (← IO.FS.readBinFile inner.path)) :: entries
    catch _ => pure ()
  pure entries

/-- Reads what a path leads to. The fixtures below a directory are only read for a request
to check them. -/
def readPath (request : Request) (path : Text) : IO (Except ReadError Entry) := do
  if path.isEmpty then return .error .notFound
  let place : IO.FS.DirEntry := { root := ".", fileName := String.ofList path }
  try
    if ← place.path.isDir then
      match request with
      | .render _ => return .ok (.directory [])
      | .test _ => return .ok (.directory (← readFixtures place))
    else return .ok (.file (← IO.FS.readBinFile place.path))
  catch failure => return .error (.ofFailure failure)

/-- What the paths of a request lead to. -/
def readPaths (request : Request) : IO Files := do
  let found ← request.paths.mapM fun path => do return (path, ← readPath request path)
  return fun path => (found.lookup path).getD (.error .notFound)

end HtmlTemplate.Command

open HtmlTemplate HtmlTemplate.Command

/-- Answers a command line. -/
def main (arguments : List String) : IO UInt32 := do
  let answer ← match Request.ofWords (arguments.map String.toList) with
    | .ok request => pure (request.answer (← readPaths request))
    | .error stop => pure stop.answer
  IO.print (String.ofList answer.output)
  IO.eprint (String.ofList answer.messages)
  return answer.exitCode.toUInt32
