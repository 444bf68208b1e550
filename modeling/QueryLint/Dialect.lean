import QueryLint.Json.Decode

/-!
The dialects of SQL that a text may be written in. A dialect decides which texts the parser
accepts and has no part in what is found in them.
-/

namespace QueryLint

inductive Dialect
  | generic
  | ansi
  | bigquery
  | clickhouse
  | databricks
  | duckdb
  | hive
  | mssql
  | mysql
  | postgres
  | redshift
  | snowflake
  | sqlite
deriving DecidableEq, Repr

namespace Dialect

def all : List Dialect :=
  [.generic, .ansi, .bigquery, .clickhouse, .databricks, .duckdb, .hive, .mssql, .mysql,
   .postgres, .redshift, .snowflake, .sqlite]

def name : Dialect → String
  | generic => "generic"
  | ansi => "ansi"
  | bigquery => "bigquery"
  | clickhouse => "clickhouse"
  | databricks => "databricks"
  | duckdb => "duckdb"
  | hive => "hive"
  | mssql => "mssql"
  | mysql => "mysql"
  | postgres => "postgres"
  | redshift => "redshift"
  | snowflake => "snowflake"
  | sqlite => "sqlite"

/-- The name as it stands in messages, with a capital. -/
def title (dialect : Dialect) : String := dialect.name.capitalize

def ofName? (name : String) : Option Dialect := all.find? (·.name == name)

theorem ofName?_name (dialect : Dialect) : ofName? dialect.name = some dialect := by
  cases dialect <;> rfl

def decodeName (name : String) : Except Json.DecodeError Dialect :=
  match ofName? name with
  | some dialect => .ok dialect
  | none => .error (.unknownVariant name (all.map (·.name)))

/-- A dialect is written as its name, or as an object whose only field has that name and is null. -/
def ofJson : Json → Except Json.DecodeError Dialect
  | .string name => decodeName name
  | .object [(name, payload)] => do
    let dialect ← decodeName name
    match payload with
    | .null => .ok dialect
    | other => .error (.wrongType other .nothing)
  | .object _ => .error .notOneKey
  | other => .error (.wrongType other .variant)

def toJson (dialect : Dialect) : Json := .string dialect.name

end Dialect

end QueryLint
