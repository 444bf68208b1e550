import QueryLint.Cli.Run
import QueryLint.Sql.Document

/-!
The world of one run as a JSON document: the files, the text on the standard input, whether the
standard output is a terminal, and beside each text what a parser makes of it. A document has no
entries that refuse to be read or listed.
-/

namespace QueryLint.Cli

def parserFailure (value : Json) : ParserFailure :=
  let text := (value.get "text").text
  match (value.get "variant").text with
  | "TokenizerError" => .tokens text
  | "ParserError" => .grammar text
  | _ => .tooDeep

/-- What a parser made of a text: its statements, or its failure. -/
def parserAnswer (value : Json) : Except ParserFailure (List Sql.Statement) :=
  match value.get? "error" with
  | some failure => .error (parserFailure failure)
  | none => .ok ((value.get "statements").items.map Sql.Document.statement)

def hexDigit (c : Char) : Nat :=
  if '0' ≤ c ∧ c ≤ '9' then c.toNat - 48 else c.toLower.toNat - 87

def hexBytes : List Char → List UInt8
  | high :: low :: rest => UInt8.ofNat (16 * hexDigit high + hexDigit low) :: hexBytes rest
  | _ => []

/-- Bytes, given as text or as hexadecimal digits. -/
def bytesOf (value : Json) : ByteArray :=
  match value.get? "hex" with
  | some digits => ⟨(hexBytes digits.text.toList).toArray⟩
  | none => (value.get "content").text.toUTF8

structure Workspace extends World where
  answers : List (String × Except ParserFailure (List Sql.Statement))

namespace Workspace

/-- The directory that the files are laid out in. Its name is empty, so that only relative paths
lead to it. -/
def directory : List String := [""]

def bare : FileTree where
  root := (Entry.directory [] none).put directory (.directory [] none)
  workingDirectory := directory

/-- Makes a directory, or writes a file in the directory that its path leads to, with the
directories on the way. What cannot be written is left out. -/
def place (tree : FileTree) (value : Json) : FileTree :=
  let path := (value.get "path").text
  if (value.get "dir").isTrue then tree.makeDirectories (tree.start path) (pathNames path)
  else
    let tree := tree.makeDirectories (tree.start path) (pathNames path).dropLast
    (tree.writeBytes path (bytesOf value)).toOption.getD tree

def layOut (files : List Json) : FileTree := files.foldl place bare

def answer? (value : Json) : Option (String × Except ParserFailure (List Sql.Statement)) :=
  match value.get? "parsed", decodeText (bytesOf value) with
  | some parsed, .ok text => some (text, parserAnswer parsed)
  | _, _ => none

def ofJson (value : Json) : Workspace where
  files := layOut (value.get "files").items
  stdin := .ok (bytesOf (value.get "stdin"))
  terminal := (value.get "terminal").isTrue
  answers := (value.get "stdin" :: (value.get "files").items).filterMap answer?

/-- The parser that gives the recorded answers. An empty text has no statements. -/
def parser (workspace : Workspace) : Parser := fun _ sql =>
  if sql = "" then .ok []
  else (workspace.answers.lookup sql).getD (.error (.grammar "no syntax tree for this text"))

/-- The run on a workspace, which holds no text for arguments that make no sense. -/
def run (workspace : Workspace) (arguments : List String) : Outcome :=
  Cli.run workspace.parser (fun _ => "") workspace.toWorld arguments

end Workspace

end QueryLint.Cli
