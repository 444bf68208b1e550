import QueryLint.Cli.Workspace
import QueryLint.Json.Parser

/-!
The command itself. It is run on a workspace, the JSON document on its standard input, which a
parser has prepared; see `QueryLint.Cli.Workspace`.
-/

namespace QueryLint

/-- The lines of a stream, up to its end. -/
partial def readLines (stream : IO.FS.Stream) (text : String) : IO String := do
  let line ← stream.getLine
  if line.isEmpty then return text else readLines stream (text ++ line)

end QueryLint

open QueryLint in
def main (arguments : List String) : IO UInt32 := do
  match Json.Parser.parse? (← readLines (← IO.getStdin) "") with
  | none =>
    IO.eprint (Cli.errorLine "the workspace is not a JSON document")
    return Cli.statusUnavailable.toUInt32
  | some document =>
    let outcome := (Cli.Workspace.ofJson document).run arguments
    IO.print outcome.stdout
    IO.eprint outcome.stderr
    match outcome.written with
    | some (path, content) => IO.FS.writeFile path content
    | none => pure ()
    return outcome.status.toUInt32
