import QueryLint.Analysis
import QueryLint.Cli.Options
import QueryLint.Cli.Output
import QueryLint.Cli.Source

/-!
The command as a function: from the arguments and the world around it to what it prints, the status
it exits with and the files it leaves behind. What is printed when the arguments make no sense, or ask
for help, is given from outside; printing itself does not fail.
-/

namespace QueryLint.Cli

/-- What a run finds around it. -/
structure World where
  files : FileTree
  stdin : Content
  /-- Whether the standard output is a terminal. -/
  terminal : Bool

structure Outcome where
  status : UInt8
  stdout : String := ""
  stderr : String := ""
  /-- The file that was written, with its content. -/
  written : Option (String × String) := none
  /-- The file system after the run. -/
  files : FileTree

/-- Nothing was found. -/
def statusClean : UInt8 := 0

/-- Something was found, or a text could not be parsed. -/
def statusFailure : UInt8 := 1

/-- The arguments make no sense. -/
def statusUsage : UInt8 := 2

/-- An input could not be read or the output not be written. -/
def statusUnavailable : UInt8 := 66

def versionText : String := "antipattern 0.1.0\n"

def Stop.outcome (explain : Stop → String) (files : FileTree) (stop : Stop) : Outcome :=
  match stop with
  | .help => { status := statusClean, stdout := explain stop, files }
  | .version => { status := statusClean, stdout := versionText, files }
  | _ => { status := statusUsage, stderr := explain stop, files }

def inspect (parser : Parser) (options : Options) (source : Source) : FileResult :=
  let request : Request :=
    { sql := source.content
      dialect := options.dialect
      sourceName := some source.name
      config := { enabled := true, disabled := options.excluded } }
  ⟨source.name, (analyze parser request).mapError ParseError.text⟩

def warning? (result : FileResult) : Option String :=
  match result.outcome with
  | .ok _ => none
  | .error message =>
    some ("antipattern: warning: " ++ result.name ++ ": " ++ message ++ "\n")

def warnings (quiet : Bool) (results : List FileResult) : String :=
  if quiet then "" else String.join (results.filterMap warning?)

def hasFailures (results : List FileResult) : Bool := results.any fun result => !result.isClean

/-- What is written about the results. Text is coloured only for a terminal. -/
def content (terminal : Bool) (options : Options) (results : List FileResult) : String :=
  match options.format with
  | .text => formatText (options.output.isNone && terminal) results
  | .json => formatJson options.compact results

/-- Text on the standard output ends its last line. -/
def endLine (text : String) : String := if text.endsWith "\n" then text else text ++ "\n"

def errorLine (text : String) : String := "antipattern: error: " ++ text ++ "\n"

/-- Writes the content about the results where the options ask for it. -/
def deliver (world : World) (options : Options) (results : List FileResult) : Outcome :=
  let stderr := warnings options.quiet results
  let status := if hasFailures results then statusFailure else statusClean
  let text := content world.terminal options results
  match options.output with
  | none => { status, stdout := endLine text, stderr, files := world.files }
  | some path =>
    match world.files.writeText path text with
    | .ok files => { status, stderr, written := some (path, text), files }
    | .error cause =>
      { status := statusUnavailable
        stderr := stderr ++ errorLine ("Failed to write to " ++ path ++ ": " ++ cause.text)
        files := world.files }

def runOptions (parser : Parser) (world : World) (options : Options) : Outcome :=
  match readInput world.files world.stdin options.files with
  | .error error =>
    { status := statusUnavailable
      stderr := errorLine ("Failed to collect SQL input: " ++ error.chain)
      files := world.files }
  | .ok sources => deliver world options (sources.map (inspect parser options))

def run (parser : Parser) (explain : Stop → String) (world : World) (arguments : List String) :
    Outcome :=
  match Options.parse arguments with
  | .error stop => stop.outcome explain world.files
  | .ok options => runOptions parser world options

end QueryLint.Cli
