import QueryLint.Json.Decode

/-!
Findings, statement by statement, and what is told of them as a whole.
-/

namespace QueryLint

structure Finding where
  detector : String
  message : String
deriving DecidableEq, Repr

/-- The findings of one statement, in the order they were made. -/
structure StatementReport where
  index : Nat
  findings : List Finding
deriving DecidableEq, Repr

def addUp (counts : List Nat) : Nat := counts.foldr (· + ·) 0

structure Report where
  sourceName : Option String := none
  statements : List StatementReport
deriving DecidableEq, Repr

namespace Report

def findings (report : Report) : List Finding := report.statements.flatMap (·.findings)

def findingCount (report : Report) : Nat :=
  addUp (report.statements.map fun statement => statement.findings.length)

def hasFindings (report : Report) : Bool :=
  report.statements.any fun statement => !statement.findings.isEmpty

def messages (report : Report) : List String := report.findings.map (·.message)

/-- The messages, one to a line; empty if there are none. -/
def text (report : Report) : String := "\n".intercalate report.messages

end Report

namespace Finding

def shape : Json.Shape :=
  ⟨"Finding",
    [⟨"detector", true, Json.fault? Json.decodeString⟩,
     ⟨"message", true, Json.fault? Json.decodeString⟩]⟩

def ofJson (value : Json) : Except Json.DecodeError Finding := do
  let given ← shape.read value
  let detector ← Json.required given "detector" Json.decodeString
  let message ← Json.required given "message" Json.decodeString
  return { detector, message }

def toJson (finding : Finding) : Json :=
  .object [("detector", .string finding.detector), ("message", .string finding.message)]

end Finding

namespace StatementReport

def shape : Json.Shape :=
  ⟨"StatementReport",
    [⟨"statementIndex", true, Json.fault? Json.decodeIndex⟩,
     ⟨"findings", true, Json.fault? (Json.decodeList Finding.ofJson)⟩]⟩

def ofJson (value : Json) : Except Json.DecodeError StatementReport := do
  let given ← shape.read value
  let index ← Json.required given "statementIndex" Json.decodeIndex
  let findings ← Json.required given "findings" (Json.decodeList Finding.ofJson)
  return { index, findings }

def toJson (statement : StatementReport) : Json :=
  .object
    [("statementIndex", .nat statement.index),
     ("findings", .array (statement.findings.map Finding.toJson))]

end StatementReport

namespace Report

def shape : Json.Shape :=
  ⟨"Report",
    [⟨"sourceName", false, Json.fault? (Json.decodeOption Json.decodeString)⟩,
     ⟨"statements", true, Json.fault? (Json.decodeList StatementReport.ofJson)⟩]⟩

def ofJson (value : Json) : Except Json.DecodeError Report := do
  let given ← shape.read value
  let sourceName ← Json.defaulted given "sourceName" (Json.decodeOption Json.decodeString) none
  let statements ← Json.required given "statements" (Json.decodeList StatementReport.ofJson)
  return { sourceName, statements }

/-- A report without a source name leaves the field out. -/
def toJson (report : Report) : Json :=
  .object <|
    (match report.sourceName with
      | some name => [("sourceName", .string name)]
      | none => []) ++
    [("statements", .array (report.statements.map StatementReport.toJson))]

end Report

end QueryLint
