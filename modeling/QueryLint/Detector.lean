import QueryLint.Config
import QueryLint.Report
import QueryLint.Rule.SharedCte
import QueryLint.Rule.RegexpContains
import QueryLint.Rule.InSubquery

/-!
The detectors, in the order they run, and the findings of the enabled ones on a statement.
-/

namespace QueryLint

inductive Detector
  | sharedCte
  | regexpContains
  | inSubquery
deriving DecidableEq, Repr

namespace Detector

def all : List Detector := [.sharedCte, .regexpContains, .inSubquery]

/-- The stable name of a detector. -/
def code : Detector → String
  | sharedCte => "CTE_MULTIPLE_REFERENCES"
  | regexpContains => "NAIVE_REGEXP_CONTAINS"
  | inSubquery => "IN_SUBQUERY_WITHOUT_AGGREGATION"

def name : Detector → String
  | sharedCte => "CTE with multiple references"
  | regexpContains => "Naive REGEXP_CONTAINS"
  | inSubquery => "IN subquery without aggregation"

def description : Detector → String
  | sharedCte => "A CTE referenced more than once is evaluated once per reference."
  | regexpContains => "REGEXP_CONTAINS used where LIKE wildcard matching would suffice."
  | inSubquery => "IN / NOT IN subquery in a WHERE clause without DISTINCT or GROUP BY."

def messages : Detector → Sql.Statement → List String
  | sharedCte => Rule.SharedCte.messages
  | regexpContains => Rule.RegexpContains.messages
  | inSubquery => Rule.InSubquery.messages

/-- What a detector finds in a statement, under its own code. -/
def findings (detector : Detector) (statement : Sql.Statement) : List Finding :=
  (detector.messages statement).map fun message => ⟨detector.code, message⟩

/-- The detectors that a configuration lets run. -/
def enabledBy (config : Config) : List Detector :=
  all.filter fun detector => config.isEnabled detector.code

end Detector

def Config.findings (config : Config) (statement : Sql.Statement) : List Finding :=
  (Detector.enabledBy config).flatMap (·.findings statement)

end QueryLint
