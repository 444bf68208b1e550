import QueryLint.Sql.Statement
import QueryLint.Text.Case

/-!
Calls of `REGEXP_CONTAINS`. Each call is noticed once, however many parts of its name match.
-/

namespace QueryLint.Rule.RegexpContains

open Sql

def functionName : String := "regexp_contains"

/-- A name without quotes is matched in any case, a quoted one only as it stands. -/
def isNamed (ident : Ident) : Bool :=
  match ident.quote with
  | none => Text.lowercase ident.value == functionName
  | some _ => ident.value == functionName

def isFlagged (call : Call) : Bool := call.name.idents.any isNamed

def message : String :=
  "REGEXP_CONTAINS : Prefer LIKE when the full power of regex is not needed " ++
    "(e.g. wildcard matching)."

def nodeMessages : Node → List String
  | .call call => if isFlagged call then [message] else []
  | _ => []

def messages (statement : Statement) : List String :=
  (statement.walk depthLimit).flatMap nodeMessages

end QueryLint.Rule.RegexpContains
