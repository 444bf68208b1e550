import QueryLint.Sql.Tree
import QueryLint.Word

/-!
The places of a query that the detectors look at, in the order they are met on a walk down the
tree, each before what it contains.

Depth is counted along the walk, and what lies deeper than the limit is left out. A query, a body,
a relation and an expression are each left out as a whole; the condition of a `WHERE` clause is
listed whenever its clause is reached, even if the walk then goes no further. What a node holds
aside is not walked at any depth.
-/

namespace QueryLint.Sql

/-- A place that a detector may look at. -/
inductive Node
  | withClause (ctes : List Cte)
  | select (select : Select)
  | table (name : ObjectName)
  | call (call : Call)
  | predicate (condition : Expr)

/-- The nodes met at a depth, or none if the limit is passed. -/
@[macro_inline]
def within (limit depth : Nat) (nodes : List Node) : List Node :=
  if limit < depth then [] else nodes

theorem within_of_le {limit depth : Nat} (inside : depth ≤ limit) (nodes : List Node) :
    within limit depth nodes = nodes := if_neg (Nat.not_lt.mpr inside)

theorem within_of_lt {limit depth : Nat} (beyond : limit < depth) (nodes : List Node) :
    within limit depth nodes = [] := if_pos beyond

mutual

def Query.walk (limit : Nat) : Query → Nat → List Node
  | ⟨withClause, body, orderBy, _⟩, depth =>
    within limit depth
      (walkWith limit withClause (depth + 1) ++
        (body.walk limit (depth + 1) ++ walkExprs limit orderBy (depth + 1)))

def walkWith (limit : Nat) : Option (List Cte) → Nat → List Node
  | none, _ => []
  | some ctes, depth => .withClause ctes :: walkCtes limit ctes depth

def walkCtes (limit : Nat) : List Cte → Nat → List Node
  | [], _ => []
  | ⟨_, query⟩ :: rest, depth => query.walk limit depth ++ walkCtes limit rest depth

def Body.walk (limit : Nat) : Body → Nat → List Node
  | .select select, depth => within limit depth (select.walk limit depth)
  | .nested query, depth => within limit depth (query.walk limit (depth + 1))
  | .setOperation left right, depth =>
    within limit depth (left.walk limit (depth + 1) ++ right.walk limit (depth + 1))
  | .values rows, depth => within limit depth (walkRows limit rows (depth + 1))
  | .other _, _ => []

def Select.walk (limit : Nat) : Select → Nat → List Node
  | ⟨distinct, projection, tables, selection, groupBy, having, qualify, aside⟩, depth =>
    .select ⟨distinct, projection, tables, selection, groupBy, having, qualify, aside⟩ ::
      (walkItems limit projection (depth + 1) ++ walkTables limit tables (depth + 1) ++
        walkWhere limit selection (depth + 1) ++ groupBy.walk limit (depth + 1) ++
        walkOption limit having (depth + 1) ++ walkOption limit qualify (depth + 1))

def walkItems (limit : Nat) : List SelectItem → Nat → List Node
  | [], _ => []
  | .expr expr :: rest, depth => expr.walk limit depth ++ walkItems limit rest depth
  | .wildcard replacements :: rest, depth =>
    walkExprs limit replacements depth ++ walkItems limit rest depth

def GroupBy.walk (limit : Nat) : GroupBy → Nat → List Node
  | .all, _ => []
  | .keys keys, depth => walkExprs limit keys depth

def walkWhere (limit : Nat) : Option Expr → Nat → List Node
  | none, _ => []
  | some condition, depth => .predicate condition :: condition.walk limit depth

def walkTables (limit : Nat) : List TableRef → Nat → List Node
  | [], _ => []
  | table :: rest, depth => table.walk limit depth ++ walkTables limit rest depth

def TableRef.walk (limit : Nat) : TableRef → Nat → List Node
  | ⟨relation, joins⟩, depth => relation.walk limit depth ++ walkJoins limit joins depth

def walkJoins (limit : Nat) : List Join → Nat → List Node
  | [], _ => []
  | ⟨relation, _, condition, _⟩ :: rest, depth =>
    relation.walk limit depth ++ walkOption limit condition depth ++ walkJoins limit rest depth

def Factor.walk (limit : Nat) : Factor → Nat → List Node
  | .table name _, depth => within limit depth [.table name]
  | .derived query _, depth => within limit depth (query.walk limit (depth + 1))
  | .nestedJoin table _, depth => within limit depth (table.walk limit (depth + 1))
  | .unnest arrays _, depth => within limit depth (walkExprs limit arrays (depth + 1))
  | .tableFunction expr _, depth => within limit depth (expr.walk limit (depth + 1))
  | .reshaped relation _, depth => within limit depth (relation.walk limit (depth + 1))
  | .other _, _ => []

def Expr.walk (limit : Nat) : Expr → Nat → List Node
  | .atom _ _, _ => []
  | .call call, depth => within limit depth (.call call :: call.walk limit (depth + 1))
  | .unary _ operand _, depth => within limit depth (operand.walk limit (depth + 1))
  | .binary _ left right, depth =>
    within limit depth (left.walk limit (depth + 1) ++ right.walk limit (depth + 1))
  | .between operand low high, depth =>
    within limit depth
      (operand.walk limit (depth + 1) ++ low.walk limit (depth + 1) ++
        high.walk limit (depth + 1))
  | .substring operand start count, depth =>
    within limit depth
      (operand.walk limit (depth + 1) ++ walkOption limit start (depth + 1) ++
        walkOption limit count (depth + 1))
  | .trim operand what characters, depth =>
    within limit depth
      (operand.walk limit (depth + 1) ++ walkOption limit what (depth + 1) ++
        walkExprs limit characters (depth + 1))
  | .overlay operand what start count, depth =>
    within limit depth
      (operand.walk limit (depth + 1) ++ what.walk limit (depth + 1) ++
        start.walk limit (depth + 1) ++ walkOption limit count (depth + 1))
  | .convert operand styles _, depth =>
    within limit depth (operand.walk limit (depth + 1) ++ walkExprs limit styles (depth + 1))
  | .choice operand arms otherwise, depth =>
    within limit depth
      (walkOption limit operand (depth + 1) ++ walkPairs limit arms (depth + 1) ++
        walkOption limit otherwise (depth + 1))
  | .access root chain, depth =>
    within limit depth (root.walk limit (depth + 1) ++ walkChain limit chain (depth + 1))
  | .map entries, depth => within limit depth (walkPairs limit entries (depth + 1))
  | .row _ items _, depth => within limit depth (walkExprs limit items (depth + 1))
  | .grouping _ sets, depth => within limit depth (walkRows limit sets (depth + 1))
  | .inList operand items, depth =>
    within limit depth (operand.walk limit (depth + 1) ++ walkExprs limit items (depth + 1))
  | .inSubquery operand query, depth =>
    within limit depth (operand.walk limit (depth + 1) ++ query.walk limit (depth + 1))
  | .subquery query, depth => within limit depth (query.walk limit (depth + 1))
  | .existsIn query, depth => within limit depth (query.walk limit (depth + 1))

def walkOption (limit : Nat) : Option Expr → Nat → List Node
  | none, _ => []
  | some expr, depth => expr.walk limit depth

def walkExprs (limit : Nat) : List Expr → Nat → List Node
  | [], _ => []
  | expr :: rest, depth => expr.walk limit depth ++ walkExprs limit rest depth

def walkRows (limit : Nat) : List (List Expr) → Nat → List Node
  | [], _ => []
  | row :: rest, depth => walkExprs limit row depth ++ walkRows limit rest depth

def walkPairs (limit : Nat) : List (Expr × Expr) → Nat → List Node
  | [], _ => []
  | (first, second) :: rest, depth =>
    first.walk limit depth ++ second.walk limit depth ++ walkPairs limit rest depth

def walkChain (limit : Nat) : List Access → Nat → List Node
  | [], _ => []
  | .field expr :: rest, depth => expr.walk limit depth ++ walkChain limit rest depth
  | .index expr :: rest, depth => expr.walk limit depth ++ walkChain limit rest depth
  | .slice lower upper stride :: rest, depth =>
    walkOption limit lower depth ++ walkOption limit upper depth ++
      walkOption limit stride depth ++ walkChain limit rest depth

/-- What is walked of a call. -/
def Call.walk (limit : Nat) : Call → Nat → List Node
  | ⟨_, parameters, arguments, filter, withinGroup, window, _⟩, depth =>
    parameters.walk limit depth ++ arguments.walk limit depth ++ walkOption limit filter depth ++
      walkExprs limit withinGroup depth ++ window.walk limit depth

def Window.walk (limit : Nat) : Window → Nat → List Node
  | .absent, _ => []
  | .named, _ => []
  | .spec partitionBy orderBy, depth =>
    walkExprs limit partitionBy depth ++ walkExprs limit orderBy depth

def Arguments.walk (limit : Nat) : Arguments → Nat → List Node
  | .absent, _ => []
  | .subquery query, depth => query.walk limit depth
  | .list arguments clauses, depth =>
    walkArguments limit arguments depth ++ walkClauses limit clauses depth

def walkArguments (limit : Nat) : List Argument → Nat → List Node
  | [], _ => []
  | .plain value :: rest, depth =>
    walkOption limit value depth ++ walkArguments limit rest depth
  | .labelled label value :: rest, depth =>
    label.walk limit depth ++ walkOption limit value depth ++ walkArguments limit rest depth

def walkClauses (limit : Nat) : List ArgumentClause → Nat → List Node
  | [], _ => []
  | .orderBy keys :: rest, depth => walkExprs limit keys depth ++ walkClauses limit rest depth
  | .limit count :: rest, depth => count.walk limit depth ++ walkClauses limit rest depth
  | .other :: rest, depth => walkClauses limit rest depth

end

/-- The walk of a query without its `WITH` clause. It starts at the body whatever the depth, which
is held in 64 bits. -/
def Query.walkBody (limit : Nat) (query : Query) (depth : Nat) : List Node :=
  query.body.walk limit (nextWord depth) ++ walkExprs limit query.orderBy (nextWord depth)

theorem Query.walk_eq (limit : Nat) (query : Query) (depth : Nat)
    (small : depth + 1 < wordBound) :
    query.walk limit depth =
      within limit depth
        (walkWith limit query.withClause (depth + 1) ++ query.walkBody limit depth) := by
  rw [Query.walkBody, nextWord_of_lt small]
  cases query
  rfl

end QueryLint.Sql
