import QueryLint.Sql.Walk

/-!
Statements: those that carry a query and those that change rows clause by clause. Any other
statement keeps only its kind, and there is nothing in it to look at.

A statement that changes rows holds aside the expressions of the clauses that are never walked:
`RETURNING`, `OUTPUT`, `LIMIT`, `ORDER BY`, `PARTITION`, `ON CONFLICT` and the `SET` of an
insertion. What a created table or view declares besides its query is left out.
-/

namespace QueryLint.Sql

inductive MergeAction
  | update (values : List Expr)
  | insertRows (rows : List (List Expr))
  | other

structure MergeClause where
  predicate : Option Expr
  action : MergeAction

inductive Statement
  | query (query : Query)
  | insert (source : Option Query) (aside : List Expr)
  | createView (query : Query)
  | createTable (query : Option Query)
  | update (target : TableRef) (values : List Expr) (sources : List TableRef)
      (selection : Option Expr) (aside : List Expr)
  | delete (targets sources : List TableRef) (selection : Option Expr) (aside : List Expr)
  | merge (target source : Factor) (condition : Expr) (clauses : List MergeClause)
      (aside : List Expr)
  | other (kind : String)

def Statement.kind : Statement → String
  | .query _ => "Query"
  | .insert _ _ => "Insert"
  | .createView _ => "CreateView"
  | .createTable _ => "CreateTable"
  | .update _ _ _ _ _ => "Update"
  | .delete _ _ _ _ => "Delete"
  | .merge _ _ _ _ _ => "Merge"
  | .other kind => kind

/-- The query that a statement carries, if it carries one. -/
def Statement.query? : Statement → Option Query
  | .query carried => some carried
  | .insert source _ => source
  | .createView carried => some carried
  | .createTable carried => carried
  | _ => none

def MergeAction.walk (limit : Nat) (depth : Nat) : MergeAction → List Node
  | .update values => walkExprs limit values depth
  | .insertRows rows => walkRows limit rows depth
  | .other => []

def MergeClause.walk (limit : Nat) (depth : Nat) (clause : MergeClause) : List Node :=
  walkOption limit clause.predicate depth ++ clause.action.walk limit depth

/-- The walk of a statement. Clauses start at depth one, a query at depth zero. -/
def Statement.walk (limit : Nat) : Statement → List Node
  | .update target values sources selection _ =>
    target.walk limit 1 ++ walkExprs limit values 1 ++ walkTables limit sources 1 ++
      walkWhere limit selection 1
  | .delete targets sources selection _ =>
    walkTables limit targets 1 ++ walkTables limit sources 1 ++ walkWhere limit selection 1
  | .merge target source condition clauses _ =>
    target.walk limit 1 ++ source.walk limit 1 ++ condition.walk limit 1 ++
      clauses.flatMap (·.walk limit 1)
  | statement =>
    match statement.query? with
    | some carried => carried.walk limit 0
    | none => []

/-- Nesting beyond this depth is not looked at. -/
def depthLimit : Nat := 100

end QueryLint.Sql
