import QueryLint.Sql.Statement

/-!
`IN` subqueries in a `WHERE` clause that neither remove duplicates nor group.

The condition of each `WHERE` clause is followed through connectives, parentheses and tests of
truth. A subquery is not entered: if it has a `WHERE` clause, that clause is met on its own.
-/

namespace QueryLint.Rule.InSubquery

open Sql

def isPlain (select : Select) : Bool :=
  match select.distinct, select.groupBy with
  | .absent, .keys [] => true
  | _, _ => false

mutual

/-- Whether a query is a `SELECT`, perhaps in parentheses, without `DISTINCT` and `GROUP BY`. -/
def isUnaggregated : Query → Bool
  | ⟨_, body, _, _⟩ => isUnaggregatedBody body

def isUnaggregatedBody : Body → Bool
  | .select select => isPlain select
  | .nested query => isUnaggregated query
  | _ => false

end

/-- Whether a form passes on the truth of its operand. -/
def isConnective : UnaryForm → Bool
  | .operator | .parentheses => true
  | .isTrue | .isNotTrue | .isFalse | .isNotFalse | .isUnknown | .isNotUnknown => true
  | _ => false

/-- The number of unaggregated subqueries that a condition tests for membership. -/
def offences (limit : Nat) : Expr → Nat → Nat
  | .inSubquery _ query, depth =>
    if limit < depth then 0 else if isUnaggregated query then 1 else 0
  | .binary .operator left right, depth =>
    if limit < depth then 0 else offences limit left (depth + 1) + offences limit right (depth + 1)
  | .unary form operand _, depth =>
    if limit < depth then 0
    else if isConnective form then offences limit operand (depth + 1) else 0
  | _, _ => 0

def message : String := "Subquery in the WHERE clause without aggregation."

def nodeMessages : Node → List String
  | .predicate condition => List.replicate (offences depthLimit condition 0) message
  | _ => []

def messages (statement : Statement) : List String :=
  (statement.walk depthLimit).flatMap nodeMessages

end QueryLint.Rule.InSubquery
