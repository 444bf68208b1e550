import QueryLint.Config
import QueryLint.Dialect

/-!
A request to inspect a text: the text, the dialect it is written in, the name it is reported under
and the detectors to run. Only the text has to be given.
-/

namespace QueryLint

structure Request where
  sql : String
  dialect : Dialect := .bigquery
  sourceName : Option String := none
  config : Config := {}
deriving DecidableEq, Repr

namespace Request

def shape : Json.Shape :=
  ⟨"AnalyzeRequest",
    [⟨"sql", true, Json.fault? Json.decodeString⟩,
     ⟨"dialect", false, Json.fault? Dialect.ofJson⟩,
     ⟨"sourceName", false, Json.fault? (Json.decodeOption Json.decodeString)⟩,
     ⟨"config", false, Json.fault? Config.ofJson⟩]⟩

def ofJson (value : Json) : Except Json.DecodeError Request := do
  let given ← shape.read value
  let sql ← Json.required given "sql" Json.decodeString
  let dialect ← Json.defaulted given "dialect" Dialect.ofJson .bigquery
  let sourceName ← Json.defaulted given "sourceName" (Json.decodeOption Json.decodeString) none
  let config ← Json.defaulted given "config" Config.ofJson {}
  return { sql, dialect, sourceName, config }

def toJson (request : Request) : Json :=
  .object <|
    [("sql", .string request.sql), ("dialect", request.dialect.toJson)] ++
    (match request.sourceName with
      | some name => [("sourceName", .string name)]
      | none => []) ++
    [("config", request.config.toJson)]

end Request

end QueryLint
