import QueryLint.Cli.FileTree
import QueryLint.Text.Case

/-!
Collecting the texts to inspect. A path to a directory stands for its `.sql` files in the order of
their names; without paths there is one text, the standard input. The first failure ends the
collection.
-/

namespace QueryLint.Cli

structure Source where
  name : String
  content : String
deriving DecidableEq, Repr

inductive InputError
  | read (path : String) (cause : FileError)
  | stdin (cause : FileError)
  | emptyDirectory (path : String)
deriving DecidableEq, Repr

def InputError.message : InputError → String
  | .read path cause => "failed to read " ++ path ++ ": " ++ cause.text
  | .stdin cause => "failed to read from stdin: " ++ cause.text
  | .emptyDirectory path => "no .sql files found in " ++ path

/-- The message followed by its cause, which the message has named already. -/
def InputError.chain (error : InputError) : String :=
  match error with
  | .read _ cause | .stdin cause => error.message ++ ": " ++ cause.text
  | .emptyDirectory _ => error.message

/-- What follows the last full stop of a name, unless nothing stands before it. -/
def extension? (name : String) : Option String :=
  let reversed := name.toList.reverse
  match reversed.dropWhile (· ≠ '.') with
  | [] => none
  | [_] => none
  | _ => some (String.ofList (reversed.takeWhile (· ≠ '.')).reverse)

def isSqlName (name : String) : Bool :=
  match extension? name with
  | some extension => Text.eqIgnoringAsciiCase extension "sql"
  | none => false

/-- The content of an entry of the directory at a path, if it is a file of SQL that a path can
lead to. -/
def sqlFile? (path : String) : String × Entry → Option (String × Content)
  | (name, .file content) =>
    if isSqlName name ∧ pathFault? (joinPath path name) = none then some (name, content) else none
  | _ => none

/-- The files of SQL in the directory at a path, in ascending order of their names. -/
def sqlFiles (path : String) (entries : List (String × Entry)) : List (String × Content) :=
  (entries.filterMap (sqlFile? path)).mergeSort fun left right => decide (left.1 ≤ right.1)

def sourceOf (path : String) (content : Except FileError String) : Except InputError Source :=
  match content with
  | .ok text => .ok ⟨path, text⟩
  | .error cause => .error (.read path cause)

def readDirectory (path : String) (entries : List (String × Entry)) :
    Except InputError (List Source) :=
  let files := sqlFiles path entries
  if files.isEmpty then .error (.emptyDirectory path)
  else files.mapM fun (name, content) => sourceOf (joinPath path name) (Content.text content)

def readPath (tree : FileTree) (path : String) : Except InputError (List Source) :=
  match tree.listing? path with
  | some (.ok entries) => readDirectory path entries
  | some (.error cause) => .error (.read path cause)
  | none => (sourceOf path (tree.readText path)).map fun source => [source]

def readStdin (content : Content) : Except InputError (List Source) :=
  match Content.text content with
  | .ok text => .ok [⟨"<stdin>", text⟩]
  | .error cause => .error (.stdin cause)

def readInput (tree : FileTree) (stdin : Content) (paths : List String) :
    Except InputError (List Source) :=
  if paths.isEmpty then readStdin stdin
  else (paths.mapM (readPath tree)).map List.flatten

end QueryLint.Cli
