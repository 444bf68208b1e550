import QueryLint.Report

/-!
What is written about the inspected texts, for people and for programs.
-/

namespace QueryLint.Cli

/-- What came of one text: its report, or the reason why it could not be parsed. -/
structure FileResult where
  name : String
  outcome : Except String Report

namespace FileResult

def findings (result : FileResult) : List Finding :=
  match result.outcome with
  | .ok report => report.findings
  | .error _ => []

def findingCount (result : FileResult) : Nat :=
  match result.outcome with
  | .ok report => report.findingCount
  | .error _ => 0

def isClean (result : FileResult) : Bool :=
  match result.outcome with
  | .ok report => !report.hasFindings
  | .error _ => false

def isError (result : FileResult) : Bool :=
  match result.outcome with
  | .ok _ => false
  | .error _ => true

end FileResult

inductive Colour
  | red
  | green
  | yellow
deriving DecidableEq, Repr

def Colour.code : Colour → String
  | red => "\x1b[31m"
  | green => "\x1b[32m"
  | yellow => "\x1b[33m"

def paint (coloured : Bool) (colour : Colour) (text : String) : String :=
  if coloured then colour.code ++ text ++ "\x1b[39m" else text

/-- A number in at least three columns, flush right. -/
def padded (value : Nat) : String :=
  let digits := Nat.toDigits 10 value
  String.ofList (List.replicate (3 - digits.length) ' ' ++ digits)

/-- The verdict on one text. -/
inductive Status
  | pass
  | fail
  | error
deriving DecidableEq, Repr

def FileResult.status (result : FileResult) : Status :=
  if result.isError then .error else if result.isClean then .pass else .fail

def Status.text (coloured : Bool) : Status → String
  | pass => paint coloured .green "PASS"
  | fail => paint coloured .red "FAIL"
  | error => paint coloured .red "ERROR"

def findingLine (coloured : Bool) (index : Nat) (finding : Finding) : String :=
  "S:" ++ padded index ++ " | " ++ paint coloured .yellow finding.detector ++ " | " ++
    finding.message ++ "\n"

def reportLines (coloured : Bool) (report : Report) : List String :=
  report.statements.flatMap fun statement =>
    statement.findings.map (findingLine coloured statement.index)

def headerLine (coloured : Bool) (result : FileResult) : String :=
  "== [" ++ result.name ++ "] " ++ result.status.text coloured ++ "\n"

/-- The header of a text and the lines under it. -/
def sectionLines (coloured : Bool) (result : FileResult) : List String :=
  headerLine coloured result ::
    match result.outcome with
    | .ok report => reportLines coloured report
    | .error message => [message ++ "\n"]

/-- A number of things, in the plural unless there is one. -/
def counted (count : Nat) (noun : String) : String :=
  toString count ++ " " ++ noun ++ if count = 1 then "" else "s"

def summaryLine (results : List FileResult) : String :=
  let findings := addUp (results.map FileResult.findingCount)
  let errors := results.countP FileResult.isError
  counted results.length "file" ++ ", " ++ counted findings "finding" ++
    (if 0 < errors then ", " ++ counted errors "parse error" else "") ++ "\n"

def formatText (coloured : Bool) (results : List FileResult) : String :=
  String.join (results.flatMap (sectionLines coloured) ++ [summaryLine results])

def FileResult.toJson (result : FileResult) : Json :=
  .object
    [("name", .string result.name),
     match result.outcome with
     | .ok report => ("report", report.toJson)
     | .error message => ("error", .string message)]

def resultsJson (results : List FileResult) : Json := .array (results.map FileResult.toJson)

def formatJson (compact : Bool) (results : List FileResult) : String :=
  (resultsJson results).render (if compact then .compact else .pretty)

end QueryLint.Cli
