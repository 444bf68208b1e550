import QueryLint.Dialect

/-!
The options of the command.

An option that takes a value may have it attached or as the next argument. A value that is not
attached, and the files named one after another, are judged only when something else begins, so an
argument that is unknown is reported before an earlier value that is no good.
-/

namespace QueryLint.Cli

inductive Format
  | text
  | json
deriving DecidableEq, Repr

def Format.name : Format → String
  | text => "text"
  | json => "json"

def Format.ofName? (name : String) : Option Format :=
  [Format.text, .json].find? (·.name == name)

structure Options where
  files : List String := []
  dialect : Dialect := .bigquery
  format : Format := .text
  output : Option String := none
  excluded : List String := []
  quiet : Bool := false
  compact : Bool := false
deriving DecidableEq, Repr

/-- Why no options come out of the arguments. -/
inductive Stop
  | invalidValue
  | unknownArgument
  | repeatedArgument
  | unexpectedValue
  | help
  | version
deriving DecidableEq, Repr

inductive ValueOption
  | dialect
  | format
  | output
  | exclude
deriving DecidableEq, Repr

inductive Flag
  | quiet
  | compact
  | help
  | version
deriving DecidableEq, Repr

inductive Switch
  | value (option : ValueOption)
  | flag (flag : Flag)
deriving DecidableEq, Repr

def Switch.ofLong? : String → Option Switch
  | "dialect" => some (.value .dialect)
  | "format" => some (.value .format)
  | "output" => some (.value .output)
  | "exclude-detectors" => some (.value .exclude)
  | "quiet" => some (.flag .quiet)
  | "compact" => some (.flag .compact)
  | "help" => some (.flag .help)
  | "version" => some (.flag .version)
  | _ => none

def Switch.ofShort? : Char → Option Switch
  | 'd' => some (.value .dialect)
  | 'f' => some (.value .format)
  | 'o' => some (.value .output)
  | 'q' => some (.flag .quiet)
  | 'c' => some (.flag .compact)
  | 'h' => some (.flag .help)
  | 'V' => some (.flag .version)
  | _ => none

/-- What has been read and not yet judged. -/
inductive Pending
  | nothing
  | awaiting (option : ValueOption)
  | value (option : ValueOption) (text : String)
  | files (paths : List String)
deriving DecidableEq, Repr

/-- Options in the making. -/
structure Draft where
  files : List String := []
  dialect : Option Dialect := none
  format : Option Format := none
  output : Option String := none
  excluded : List String := []
  quiet : Bool := false
  compact : Bool := false
  pending : Pending := .nothing
  filesOnly : Bool := false
deriving DecidableEq, Repr

namespace Draft

/-- Takes a value. Only the excluded detectors may be given more than once. -/
def set (draft : Draft) (option : ValueOption) (text : String) : Except Stop Draft :=
  match option with
  | .dialect =>
    if draft.dialect.isSome then .error .repeatedArgument
    else match Dialect.ofName? text with
      | some dialect => .ok { draft with dialect := some dialect }
      | none => .error .invalidValue
  | .format =>
    if draft.format.isSome then .error .repeatedArgument
    else match Format.ofName? text with
      | some format => .ok { draft with format := some format }
      | none => .error .invalidValue
  | .output =>
    if draft.output.isSome then .error .repeatedArgument
    else if text = "" then .error .invalidValue
    else .ok { draft with output := some text }
  | .exclude => .ok { draft with excluded := draft.excluded ++ text.splitOn "," }

/-- Judges what is pending. -/
def settle (draft : Draft) : Except Stop Draft :=
  let settled := { draft with pending := .nothing }
  match draft.pending with
  | .nothing => .ok draft
  | .awaiting _ => .error .invalidValue
  | .value option text => settled.set option text
  | .files paths =>
    if paths.contains "" then .error .invalidValue
    else .ok { settled with files := draft.files ++ paths }

def raise (draft : Draft) (flag : Flag) : Except Stop Draft := do
  let draft ← draft.settle
  match flag with
  | .quiet => if draft.quiet then .error .repeatedArgument else return { draft with quiet := true }
  | .compact =>
    if draft.compact then .error .repeatedArgument else return { draft with compact := true }
  | .help => .error .help
  | .version => .error .version

/-- An option with its value attached. -/
def give (draft : Draft) (option : ValueOption) (text : String) : Except Stop Draft := do
  (← draft.settle).set option text

/-- An option whose value is the next argument. -/
def await (draft : Draft) (option : ValueOption) : Except Stop Draft := do
  return { ← draft.settle with pending := .awaiting option }

/-- An argument behind two dashes: a name, and a value if there is an equals sign. -/
def long (draft : Draft) (argument : List Char) : Except Stop Draft :=
  let name := String.ofList (argument.takeWhile (· ≠ '='))
  match Switch.ofLong? name, argument.dropWhile (· ≠ '=') with
  | none, _ => .error .unknownArgument
  | some (.value option), [] => draft.await option
  | some (.value option), _ :: text => draft.give option (String.ofList text)
  | some (.flag flag), [] => draft.raise flag
  | some (.flag _), _ :: _ => .error .unexpectedValue

/-- A cluster behind one dash: flags, and perhaps an option that takes the rest for its value. -/
def short (draft : Draft) : List Char → Except Stop Draft
  | [] => .ok draft
  | letter :: rest =>
    match Switch.ofShort? letter, rest with
    | none, _ => .error .unknownArgument
    | some (.flag flag), rest => do (← draft.raise flag).short rest
    | some (.value option), [] => draft.await option
    | some (.value option), '=' :: text => draft.give option (String.ofList text)
    | some (.value option), text => draft.give option (String.ofList text)

def addFile (draft : Draft) (path : String) : Except Stop Draft :=
  match draft.pending with
  | .files paths => .ok { draft with pending := .files (paths ++ [path]) }
  | _ => do return { ← draft.settle with pending := .files [path] }

/-- An argument that is no option: the value that is awaited, or else a file. -/
def plain (draft : Draft) (argument : String) : Except Stop Draft :=
  match draft.pending with
  | .awaiting option => .ok { draft with pending := .value option argument }
  | _ => draft.addFile argument

/-- Takes the next argument. Behind two bare dashes there are only files. -/
def next (draft : Draft) (argument : String) : Except Stop Draft :=
  if draft.filesOnly then draft.addFile argument
  else match argument.toList with
    | ['-', '-'] => .ok { draft with filesOnly := true }
    | '-' :: '-' :: rest => draft.long rest
    | '-' :: letter :: rest => draft.short (letter :: rest)
    | _ => draft.plain argument

def finish (draft : Draft) : Except Stop Options := do
  let draft ← draft.settle
  return {
    files := draft.files
    dialect := draft.dialect.getD .bigquery
    format := draft.format.getD .text
    output := draft.output
    excluded := draft.excluded
    quiet := draft.quiet
    compact := draft.compact }

end Draft

def Options.parse (arguments : List String) : Except Stop Options := do
  (← arguments.foldlM Draft.next {}).finish

end QueryLint.Cli
