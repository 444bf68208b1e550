import QueryLint.Detector
import QueryLint.ParseError
import QueryLint.Request

/-!
The inspection of a text. Parsing is left to a parser that is handed in: it either yields the
statements of the whole text or gives the text up, and then nothing is found.
-/

namespace QueryLint

abbrev Parser := Dialect → String → Except ParserFailure (List Sql.Statement)

/-- The statements of a text, or the parser's failure with the dialect it was tried in. -/
def Parser.parse (parser : Parser) (dialect : Dialect) (sql : String) :
    Except ParseError (List Sql.Statement) :=
  (parser dialect sql).mapError fun failure => (ParseError.ofFailure failure).inDialect dialect

def statementReports (config : Config) (statements : List Sql.Statement) :
    List StatementReport :=
  statements.mapIdx fun index statement => ⟨index, config.findings statement⟩

/-- Parses the text of a request and runs the enabled detectors on each statement. -/
def analyze (parser : Parser) (request : Request) : Except ParseError Report := do
  let statements ← parser.parse request.dialect request.sql
  return ⟨request.sourceName, statementReports request.config statements⟩

end QueryLint
