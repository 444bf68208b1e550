import QueryLint.Dialect
import QueryLint.Position

/-!
Texts that the parser gives up on. A parser reports why in its own words; the error keeps them,
classifies the failure and recovers the place if one is named.
-/

namespace QueryLint

/-- Why a parser gave a text up. -/
inductive ParserFailure
  | tokens (text : String)
  | grammar (text : String)
  | tooDeep
deriving DecidableEq, Repr

def ParserFailure.message : ParserFailure → String
  | .tokens text => "sql parser error: " ++ text
  | .grammar text => "sql parser error: " ++ text
  | .tooDeep => "sql parser error: recursion limit exceeded"

/-- A text that ended too soon is told apart from one that is wrong as it stands. -/
inductive ParseErrorKind
  | grammar
  | unexpectedEnd
  | tokens
deriving DecidableEq, Repr

/-- A failure is put down to the end of the text if its words mention it. -/
def ParserFailure.kind : ParserFailure → ParseErrorKind
  | .tokens _ => .tokens
  | .grammar text => if Text.occurs "EOF".toList text.toList then .unexpectedEnd else .grammar
  | .tooDeep => .grammar

structure ParseError where
  message : String
  position : Option Position := none
  dialect : Option Dialect := none
  kind : ParseErrorKind := .grammar
deriving DecidableEq, Repr

namespace ParseError

def ofFailure (failure : ParserFailure) : ParseError where
  message := failure.message
  position := Position.ofMessage? failure.message
  kind := failure.kind

def inDialect (error : ParseError) (dialect : Dialect) : ParseError :=
  { error with dialect := some dialect }

/-- The error in one line, with the dialect and the place if they are known. -/
def text (error : ParseError) : String :=
  "Parse error" ++
    (match error.dialect with
      | some dialect => " (" ++ dialect.title ++ ")"
      | none => "") ++
    (match error.position with
      | some ⟨line, column⟩ => s!" at line {line}, column {column}"
      | none => "") ++
    ": " ++ error.message

end ParseError

end QueryLint
