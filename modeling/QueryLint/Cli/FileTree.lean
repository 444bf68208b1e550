/-!
One fixed state of a file system with a working directory, and the resolution of paths in it.

A path is followed step by step from the root or from the working directory. Every step is taken
from a directory, so a path that goes through a file, or that ends in a slash behind one, leads
nowhere. Names and paths have a greatest length, counted in bytes.

The system may refuse what is asked of an entry. A file may refuse to be read, and is then not
written either; a directory may refuse to list its entries, at once or midway, while paths still lead
to them; and an entry may refuse to be looked at, as a broken link does and all entries of a directory
that may not be searched. A link that is not broken counts as the entry that it leads to. Left out are
entries that are neither files nor directories, names that are not text in UTF-8, directories that
take no new files, and writing that fails midway.
-/

namespace QueryLint.Cli

/-- Why something cannot be read or written. Any cause without a name of its own comes with the text
that the system gives for it. -/
inductive FileError
  | notFound
  | denied
  | notADirectory
  | isADirectory
  | notText
  | nameTooLong
  | unusableName
  | other (text : String)
deriving DecidableEq, Repr

def FileError.text : FileError → String
  | .notFound => "No such file or directory (os error 2)"
  | .denied => "Permission denied (os error 13)"
  | .notADirectory => "Not a directory (os error 20)"
  | .isADirectory => "Is a directory (os error 21)"
  | .nameTooLong => "File name too long (os error 36)"
  | .notText => "stream did not contain valid UTF-8"
  | .unusableName => "file name contained an unexpected NUL byte"
  | .other text => text

/-- What comes of reading a file or a stream to its end. -/
abbrev Content := Except FileError ByteArray

/-- An entry of a directory. The fault of a directory, if it has one, ends the listing of its
entries. -/
inductive Entry
  | file (content : Content)
  | directory (entries : List (String × Entry)) (fault : Option FileError)
  | broken (cause : FileError)

def decodeText (bytes : ByteArray) : Except FileError String :=
  match String.fromUTF8? bytes with
  | some text => .ok text
  | none => .error .notText

def Content.text (content : Content) : Except FileError String := content.bind decodeText

structure FileTree where
  root : Entry
  workingDirectory : List String

namespace Entry

/-- The entry that a chain of names leads to. -/
def find? : List String → Entry → Option Entry
  | [], entry => some entry
  | name :: rest, .directory entries _ => (entries.lookup name).bind (find? rest)
  | _ :: _, _ => none

/-- Gives a name an entry, in place of the one it had. -/
def assign (name : String) (entry : Entry) : List (String × Entry) → List (String × Entry)
  | [] => [(name, entry)]
  | (other, old) :: rest =>
    if other = name then (name, entry) :: rest else (other, old) :: assign name entry rest

/-- Puts an entry where a chain of names leads, with the directories on the way. -/
def put : Entry → List String → Entry → Entry
  | _, [], new => new
  | .directory entries fault, name :: rest, new =>
    .directory
      (assign name (put ((entries.lookup name).getD (.directory [] none)) rest new) entries) fault
  | _, name :: rest, new => .directory [(name, put (.directory [] none) rest new)] none

end Entry

/-- The names on a path, without those that repeated slashes leave empty. -/
def pathNames (path : String) : List String :=
  ((path.toList.splitOn '/').map String.ofList).filter (· ≠ "")

/-- The steps of a path. A slash at the end asks for a directory, as a step to itself does. -/
def pathSteps (path : String) : List String :=
  pathNames path ++ if path.endsWith "/" then ["."] else []

/-- The path of a directory's entry, with one slash between. -/
def joinPath (directory name : String) : String :=
  if directory.endsWith "/" then directory ++ name else directory ++ "/" ++ name

def longestName : Nat := 255

def longestPath : Nat := 4095

/-- What is wrong with a path before it is followed. -/
def pathFault? (path : String) : Option FileError :=
  if '\x00' ∈ path.toList then some .unusableName
  else if path = "" then some .notFound
  else if longestPath < path.utf8ByteSize then some .nameTooLong
  else none

namespace FileTree

/-- The place that a path is followed from. -/
def start (tree : FileTree) (path : String) : List String :=
  if path.startsWith "/" then [] else tree.workingDirectory

/-- Follows steps from a place, and gives the chain of names from the root. -/
def follow (tree : FileTree) (place : List String) :
    List String → Except FileError (List String)
  | [] => .ok place
  | step :: rest =>
    match tree.root.find? place with
    | none => .error .notFound
    | some (.file _) => .error .notADirectory
    | some (.broken cause) => .error cause
    | some (.directory entries _) =>
      if step = "." then tree.follow place rest
      else if step = ".." then tree.follow place.dropLast rest
      else if longestName < step.utf8ByteSize then .error .nameTooLong
      else if (entries.lookup step).isSome then tree.follow (place ++ [step]) rest
      else .error .notFound

/-- The place that a path names. -/
def resolve (tree : FileTree) (path : String) : Except FileError (List String) :=
  match pathFault? path with
  | some fault => .error fault
  | none => tree.follow (tree.start path) (pathSteps path)

def entry (tree : FileTree) (path : String) : Except FileError Entry := do
  let place ← tree.resolve path
  match tree.root.find? place with
  | some entry => return entry
  | none => .error .notFound

/-- What comes of listing the directory that a path names, if it names one. -/
def listing? (tree : FileTree) (path : String) :
    Option (Except FileError (List (String × Entry))) :=
  match tree.entry path with
  | .ok (.directory entries none) => some (.ok entries)
  | .ok (.directory _ (some fault)) => some (.error fault)
  | _ => none

def readText (tree : FileTree) (path : String) : Except FileError String := do
  match ← tree.entry path with
  | .file content => Content.text content
  | .directory _ _ => .error .isADirectory
  | .broken cause => .error cause

/-- The place of a file to be written: a name in a directory that exists. -/
def target (tree : FileTree) (path : String) : Except FileError (List String) := do
  match pathFault? path, (pathNames path).getLast? with
  | some fault, _ => .error fault
  | none, none => .error .isADirectory
  | none, some name =>
    let directory ← tree.follow (tree.start path) ((pathNames path).dropLast ++ ["."])
    if path.endsWith "/" ∨ name = "." ∨ name = ".." then .error .isADirectory
    if longestName < name.utf8ByteSize then .error .nameTooLong
    return directory ++ [name]

def putAt (tree : FileTree) (place : List String) (entry : Entry) : FileTree :=
  { tree with root := tree.root.put place entry }

def writeBytes (tree : FileTree) (path : String) (bytes : ByteArray) :
    Except FileError FileTree := do
  let place ← tree.target path
  match tree.root.find? place with
  | some (.directory _ _) => .error .isADirectory
  | some (.broken cause) | some (.file (.error cause)) => .error cause
  | _ => return tree.putAt place (.file (.ok bytes))

def writeText (tree : FileTree) (path content : String) : Except FileError FileTree :=
  tree.writeBytes path content.toUTF8

/-- Follows steps from a place and makes the directories that are missing on the way, up to a file
that stands in it. -/
def makeDirectories (tree : FileTree) (place : List String) : List String → FileTree
  | [] => tree
  | step :: rest =>
    match tree.root.find? place with
    | some (.directory entries _) =>
      if step = "." then tree.makeDirectories place rest
      else if step = ".." then tree.makeDirectories place.dropLast rest
      else if (entries.lookup step).isSome then tree.makeDirectories (place ++ [step]) rest
      else
        (tree.putAt (place ++ [step]) (.directory [] none)).makeDirectories (place ++ [step]) rest
    | _ => tree

end FileTree

end QueryLint.Cli
