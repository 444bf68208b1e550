import Mathlib.Data.List.Basic
import QueryLint.Sql.Statement

/-!
The walk as one equation. Queries, bodies, relations and expressions are the items of a tree: each is
entered at a depth of its own and holds parts in a fixed order, which are either nodes to list or
further items, one level deeper. What an item holds aside is no part of it. The parts say nothing
about depth, and the walk of an item is the walk of its parts, or nothing beyond the limit.
-/

namespace QueryLint.Sql

/-- What the walk enters at a depth of its own. -/
inductive Item
  | query (query : Query)
  | body (body : Body)
  | relation (relation : Factor)
  | expr (expr : Expr)

def Node.isPredicate : Node → Bool
  | .predicate _ => true
  | _ => false

/-- A node other than the condition of a `WHERE` clause. -/
abbrev Landmark := {node : Node // node.isPredicate = false}

/-- What an item holds: a node to list, a further item to enter, or the condition of a `WHERE`
clause, which is both listed and entered. -/
inductive Part
  | landmark (landmark : Landmark)
  | item (item : Item)
  | condition (condition : Expr)

/-- What is listed for a part before anything is entered. -/
def Part.listed : Part → List Node
  | .landmark place => [place.val]
  | .item _ => []
  | .condition tested => [.predicate tested]

/-- The item that a part leads to. -/
def Part.entered : Part → Option Item
  | .landmark _ => none
  | .item inner => some inner
  | .condition tested => some (.expr tested)

def exprParts (exprs : List Expr) : List Part := exprs.map fun expr => .item (.expr expr)

def whereParts (selection : Option Expr) : List Part := selection.toList.map .condition

def Access.parts : Access → List Part
  | .field expr => exprParts [expr]
  | .index expr => exprParts [expr]
  | .slice lower upper stride => exprParts (lower.toList ++ upper.toList ++ stride.toList)

def Argument.parts : Argument → List Part
  | .plain value => exprParts value.toList
  | .labelled label value => exprParts (label :: value.toList)

def ArgumentClause.parts : ArgumentClause → List Part
  | .orderBy keys => exprParts keys
  | .limit count => exprParts [count]
  | .other => []

def Arguments.parts : Arguments → List Part
  | .absent => []
  | .subquery query => [.item (.query query)]
  | .list arguments clauses =>
    arguments.flatMap Argument.parts ++ clauses.flatMap ArgumentClause.parts

def Window.parts : Window → List Part
  | .absent => []
  | .named => []
  | .spec partitionBy orderBy => exprParts partitionBy ++ exprParts orderBy

def Call.parts (call : Call) : List Part :=
  .landmark ⟨.call call, rfl⟩ ::
    (call.parameters.parts ++ call.arguments.parts ++ exprParts call.filter.toList ++
      exprParts call.withinGroup ++ call.window.parts)

def Expr.parts : Expr → List Part
  | .atom _ _ => []
  | .call made => made.parts
  | .unary _ operand _ => exprParts [operand]
  | .binary _ left right => exprParts [left, right]
  | .between operand low high => exprParts [operand, low, high]
  | .substring operand start count => exprParts (operand :: start.toList ++ count.toList)
  | .trim operand what characters => exprParts (operand :: what.toList ++ characters)
  | .overlay operand what start count => exprParts ([operand, what, start] ++ count.toList)
  | .convert operand styles _ => exprParts (operand :: styles)
  | .choice operand arms otherwise =>
    exprParts (operand.toList ++ arms.flatMap (fun arm => [arm.1, arm.2]) ++ otherwise.toList)
  | .access root chain => exprParts [root] ++ chain.flatMap Access.parts
  | .map entries => exprParts (entries.flatMap fun entry => [entry.1, entry.2])
  | .row _ items _ => exprParts items
  | .grouping _ sets => exprParts sets.flatten
  | .inList operand items => exprParts (operand :: items)
  | .inSubquery operand query => exprParts [operand] ++ [.item (.query query)]
  | .subquery query => [.item (.query query)]
  | .existsIn query => [.item (.query query)]

def Join.parts (join : Join) : List Part :=
  .item (.relation join.relation) :: exprParts join.condition.toList

def TableRef.parts (table : TableRef) : List Part :=
  .item (.relation table.relation) :: table.joins.flatMap Join.parts

def Factor.parts : Factor → List Part
  | .table name _ => [.landmark ⟨.table name, rfl⟩]
  | .derived query _ => [.item (.query query)]
  | .nestedJoin joined _ => joined.parts
  | .unnest arrays _ => exprParts arrays
  | .tableFunction expr _ => exprParts [expr]
  | .reshaped relation _ => [.item (.relation relation)]
  | .other _ => []

def SelectItem.parts : SelectItem → List Part
  | .expr value => exprParts [value]
  | .wildcard replacements => exprParts replacements

def GroupBy.parts : GroupBy → List Part
  | .all => []
  | .keys exprs => exprParts exprs

def Select.parts (select : Select) : List Part :=
  .landmark ⟨.select select, rfl⟩ ::
    (select.projection.flatMap SelectItem.parts ++ select.tables.flatMap TableRef.parts ++
      whereParts select.selection ++ select.groupBy.parts ++ exprParts select.having.toList ++
      exprParts select.qualify.toList)

def Body.parts : Body → List Part
  | .select block => block.parts
  | .nested query => [.item (.query query)]
  | .setOperation left right => [.item (.body left), .item (.body right)]
  | .values rows => exprParts rows.flatten
  | .other _ => []

def withParts : Option (List Cte) → List Part
  | none => []
  | some ctes => .landmark ⟨.withClause ctes, rfl⟩ :: ctes.map fun cte => .item (.query cte.query)

/-- A query without its `WITH` clause. -/
def Query.bodyParts (query : Query) : List Part :=
  .item (.body query.body) :: exprParts query.orderBy

def Query.parts (query : Query) : List Part := withParts query.withClause ++ query.bodyParts

def MergeAction.parts : MergeAction → List Part
  | .update values => exprParts values
  | .insertRows rows => exprParts rows.flatten
  | .other => []

def MergeClause.parts (clause : MergeClause) : List Part :=
  exprParts clause.predicate.toList ++ clause.action.parts

/-- What a statement holds if it carries no query. -/
def Statement.clauses : Statement → List Part
  | .update target values sources selection _ =>
    target.parts ++ exprParts values ++ sources.flatMap TableRef.parts ++ whereParts selection
  | .delete targets sources selection _ =>
    targets.flatMap TableRef.parts ++ sources.flatMap TableRef.parts ++ whereParts selection
  | .merge target source condition clauses _ =>
    [.item (.relation target), .item (.relation source), .item (.expr condition)] ++
      clauses.flatMap MergeClause.parts
  | _ => []

def Item.parts : Item → List Part
  | .query inner => inner.parts
  | .body inner => inner.parts
  | .relation inner => inner.parts
  | .expr inner => inner.parts

def Item.walk (limit : Nat) : Item → Nat → List Node
  | .query inner, depth => inner.walk limit depth
  | .body inner, depth => inner.walk limit depth
  | .relation inner, depth => inner.walk limit depth
  | .expr inner, depth => inner.walk limit depth

def Part.walk (limit depth : Nat) (part : Part) : List Node :=
  part.listed ++ part.entered.elim [] fun item => item.walk limit depth

/-- The walk of parts that are met at one depth. -/
def walkParts (limit depth : Nat) (parts : List Part) : List Node :=
  parts.flatMap (Part.walk limit depth)

section Walk

variable (limit depth : Nat)

@[simp]
theorem walkParts_nil : walkParts limit depth [] = [] := rfl

@[simp]
theorem walkParts_cons (part : Part) (parts : List Part) :
    walkParts limit depth (part :: parts) = part.walk limit depth ++ walkParts limit depth parts :=
  List.flatMap_cons

@[simp]
theorem walkParts_append (first second : List Part) :
    walkParts limit depth (first ++ second) =
      walkParts limit depth first ++ walkParts limit depth second := List.flatMap_append

@[simp]
theorem Part.walk_landmark (place : Landmark) :
    (Part.landmark place).walk limit depth = [place.val] := rfl

@[simp]
theorem Part.walk_item (inner : Item) :
    (Part.item inner).walk limit depth = inner.walk limit depth := rfl

@[simp]
theorem Part.walk_condition (tested : Expr) :
    (Part.condition tested).walk limit depth = .predicate tested :: tested.walk limit depth := rfl

@[simp]
theorem exprParts_nil : exprParts [] = [] := rfl

@[simp]
theorem exprParts_cons (expr : Expr) (rest : List Expr) :
    exprParts (expr :: rest) = .item (.expr expr) :: exprParts rest := rfl

@[simp]
theorem exprParts_append (first second : List Expr) :
    exprParts (first ++ second) = exprParts first ++ exprParts second := List.map_append

@[simp]
theorem walkExprs_eq (exprs : List Expr) :
    walkExprs limit exprs depth = walkParts limit depth (exprParts exprs) := by
  induction exprs with
  | nil => simp [walkExprs]
  | cons expr rest ih => simp [walkExprs, ih, Item.walk]

@[simp]
theorem walkOption_eq (expr : Option Expr) :
    walkOption limit expr depth = walkParts limit depth (exprParts expr.toList) := by
  cases expr with
  | none => simp [walkOption]
  | some expr => simp [walkOption, Item.walk]

@[simp]
theorem walkRows_eq (rows : List (List Expr)) :
    walkRows limit rows depth = walkParts limit depth (exprParts rows.flatten) := by
  induction rows with
  | nil => simp [walkRows]
  | cons row rest ih => simp [walkRows, ih]

@[simp]
theorem walkPairs_eq (pairs : List (Expr × Expr)) :
    walkPairs limit pairs depth =
      walkParts limit depth (exprParts (pairs.flatMap fun pair => [pair.1, pair.2])) := by
  induction pairs with
  | nil => simp [walkPairs]
  | cons pair rest ih => simp [walkPairs, ih, Item.walk]

@[simp]
theorem walkChain_eq (chain : List Access) :
    walkChain limit chain depth = walkParts limit depth (chain.flatMap Access.parts) := by
  induction chain with
  | nil => simp [walkChain]
  | cons access rest ih => cases access <;> simp [walkChain, Access.parts, ih, Item.walk]

@[simp]
theorem walkArguments_eq (arguments : List Argument) :
    walkArguments limit arguments depth =
      walkParts limit depth (arguments.flatMap Argument.parts) := by
  induction arguments with
  | nil => simp [walkArguments]
  | cons argument rest ih => cases argument <;> simp [walkArguments, Argument.parts, ih, Item.walk]

@[simp]
theorem walkClauses_eq (clauses : List ArgumentClause) :
    walkClauses limit clauses depth =
      walkParts limit depth (clauses.flatMap ArgumentClause.parts) := by
  induction clauses with
  | nil => simp [walkClauses]
  | cons clause rest ih => cases clause <;> simp [walkClauses, ArgumentClause.parts, ih, Item.walk]

@[simp]
theorem Arguments.walk_eq (arguments : Arguments) :
    arguments.walk limit depth = walkParts limit depth arguments.parts := by
  cases arguments <;> simp [Arguments.walk, Arguments.parts, Item.walk]

@[simp]
theorem Window.walk_eq (window : Window) :
    window.walk limit depth = walkParts limit depth window.parts := by
  cases window <;> simp [Window.walk, Window.parts]

@[simp]
theorem Call.walk_eq (call : Call) :
    .call call :: call.walk limit depth = walkParts limit depth call.parts := by
  cases call
  simp [Call.walk, Call.parts]

@[simp]
theorem walkJoins_eq (joins : List Join) :
    walkJoins limit joins depth = walkParts limit depth (joins.flatMap Join.parts) := by
  induction joins with
  | nil => simp [walkJoins]
  | cons join rest ih =>
    cases join
    simp [walkJoins, Join.parts, ih, Item.walk]

@[simp]
theorem TableRef.walk_eq (table : TableRef) :
    table.walk limit depth = walkParts limit depth table.parts := by
  cases table
  simp [TableRef.walk, TableRef.parts, Item.walk]

@[simp]
theorem walkTables_eq (tables : List TableRef) :
    walkTables limit tables depth = walkParts limit depth (tables.flatMap TableRef.parts) := by
  induction tables with
  | nil => simp [walkTables]
  | cons table rest ih => simp [walkTables, ih]

@[simp]
theorem walkItems_eq (items : List SelectItem) :
    walkItems limit items depth = walkParts limit depth (items.flatMap SelectItem.parts) := by
  induction items with
  | nil => simp [walkItems]
  | cons item rest ih => cases item <;> simp [walkItems, SelectItem.parts, ih, Item.walk]

@[simp]
theorem walkWhere_eq (selection : Option Expr) :
    walkWhere limit selection depth = walkParts limit depth (whereParts selection) := by
  cases selection <;> simp [walkWhere, whereParts]

@[simp]
theorem GroupBy.walk_eq (groupBy : GroupBy) :
    groupBy.walk limit depth = walkParts limit depth groupBy.parts := by
  cases groupBy <;> simp [GroupBy.walk, GroupBy.parts]

theorem Select.walk_eq (select : Select) :
    select.walk limit depth = walkParts limit (depth + 1) select.parts := by
  cases select
  simp [Select.walk, Select.parts]

theorem walkCtes_eq (ctes : List Cte) :
    walkCtes limit ctes depth =
      walkParts limit depth (ctes.map fun cte => .item (.query cte.query)) := by
  induction ctes with
  | nil => simp [walkCtes]
  | cons cte rest ih =>
    cases cte
    simp [walkCtes, ih, Item.walk]

@[simp]
theorem walkWith_eq (withClause : Option (List Cte)) :
    walkWith limit withClause depth = walkParts limit depth (withParts withClause) := by
  cases withClause <;> simp [walkWith, withParts, walkCtes_eq]

theorem within_nil : within limit depth [] = [] := by
  rw [within]
  split <;> rfl

theorem Expr.walk_eq (expr : Expr) :
    expr.walk limit depth = within limit depth (walkParts limit (depth + 1) expr.parts) := by
  cases expr <;> simp [Expr.walk, Expr.parts, Item.walk, within_nil]

theorem Factor.walk_eq (relation : Factor) :
    relation.walk limit depth =
      within limit depth (walkParts limit (depth + 1) relation.parts) := by
  cases relation <;> simp [Factor.walk, Factor.parts, Item.walk, within_nil]

theorem Body.walk_eq (body : Body) :
    body.walk limit depth = within limit depth (walkParts limit (depth + 1) body.parts) := by
  cases body <;> simp [Body.walk, Body.parts, Item.walk, Select.walk_eq, within_nil]

/-- The walk of an item is the walk of its parts one level deeper. -/
theorem Item.walk_eq (item : Item) :
    item.walk limit depth = within limit depth (walkParts limit (depth + 1) item.parts) := by
  cases item with
  | query query =>
    cases query
    simp [Item.walk, Item.parts, Query.walk, Query.parts, Query.bodyParts]
  | body body => exact Body.walk_eq limit depth body
  | relation relation => exact Factor.walk_eq limit depth relation
  | expr expr => exact Expr.walk_eq limit depth expr

theorem Query.walkBody_eq (query : Query) (small : depth + 1 < wordBound) :
    query.walkBody limit depth = walkParts limit (depth + 1) query.bodyParts := by
  rw [Query.walkBody, nextWord_of_lt small]
  simp [Query.bodyParts, Item.walk]

theorem MergeAction.walk_eq (action : MergeAction) :
    action.walk limit depth = walkParts limit depth action.parts := by
  cases action <;> simp [MergeAction.walk, MergeAction.parts]

theorem MergeClause.walk_eq (clause : MergeClause) :
    clause.walk limit depth = walkParts limit depth clause.parts := by
  simp [MergeClause.walk, MergeClause.parts, MergeAction.walk_eq]

theorem walkMerge_eq (clauses : List MergeClause) :
    clauses.flatMap (·.walk limit depth) =
      walkParts limit depth (clauses.flatMap MergeClause.parts) := by
  rw [walkParts, List.flatMap_assoc]
  apply List.flatMap_congr
  intro clause _
  exact MergeClause.walk_eq limit depth clause

/-- The clauses of a statement are met at depth one. -/
theorem Statement.walk_clauses (statement : Statement) (bare : statement.query? = none) :
    statement.walk limit = walkParts limit 1 statement.clauses := by
  cases statement with
  | query carried => cases bare
  | createView carried => cases bare
  | insert source aside =>
    rw [Statement.query?] at bare
    simp [Statement.walk, Statement.clauses, Statement.query?, bare]
  | createTable carried =>
    rw [Statement.query?] at bare
    simp [Statement.walk, Statement.clauses, Statement.query?, bare]
  | update target values sources selection aside => simp [Statement.walk, Statement.clauses]
  | delete targets sources selection aside => simp [Statement.walk, Statement.clauses]
  | merge target source condition clauses aside =>
    simp [Statement.walk, Statement.clauses, walkMerge_eq, Item.walk]
  | other kind => simp [Statement.walk, Statement.clauses, Statement.query?]

/-- The query that a statement carries is met at depth zero. -/
theorem Statement.walk_carried (statement : Statement) (carried : Query)
    (found : statement.query? = some carried) : statement.walk limit = carried.walk limit 0 := by
  cases statement <;> simp_all [Statement.walk, Statement.query?]

end Walk

end QueryLint.Sql
