import QueryLint.Proofs.Walk.Alike

/-!
Renaming the identifiers of a tree. A renaming changes each identifier on its own and nothing else:
it reaches every identifier, also those in the clauses that no walk enters. The names of calls are
renamed apart from the names of tables and common table expressions.

Main statement: the walk of a renamed tree is the walk of the tree with each of its nodes renamed.
-/

namespace QueryLint.Sql

/-- What becomes of the identifiers in a tree: of those that name tables and common table
expressions, and of those in the names of calls. -/
structure Renaming where
  table : Ident → Ident
  call : Ident → Ident

def NamePart.rename (change : Ident → Ident) : NamePart → NamePart
  | .ident name => .ident (change name)
  | .computed => .computed

def ObjectName.rename (change : Ident → Ident) (name : ObjectName) : ObjectName :=
  name.map (NamePart.rename change)

mutual

def Query.rename (names : Renaming) : Query → Query
  | ⟨withClause, body, orderBy, aside⟩ =>
    ⟨renameWith names withClause, body.rename names, renameExprs names orderBy,
      renameExprs names aside⟩

def renameWith (names : Renaming) : Option (List Cte) → Option (List Cte)
  | none => none
  | some ctes => some (renameCtes names ctes)

def renameCtes (names : Renaming) : List Cte → List Cte
  | [] => []
  | ⟨name, query⟩ :: rest => ⟨names.table name, query.rename names⟩ :: renameCtes names rest

def Body.rename (names : Renaming) : Body → Body
  | .select block => .select (block.rename names)
  | .nested query => .nested (query.rename names)
  | .setOperation left right => .setOperation (left.rename names) (right.rename names)
  | .values rows => .values (renameRows names rows)
  | .other aside => .other (renameExprs names aside)

def Select.rename (names : Renaming) : Select → Select
  | ⟨distinct, projection, tables, selection, groupBy, having, qualify, aside⟩ =>
    ⟨distinct.rename names, renameItems names projection, renameTables names tables,
      renameOption names selection, groupBy.rename names, renameOption names having,
      renameOption names qualify, renameExprs names aside⟩

def Distinct.rename (names : Renaming) : Distinct → Distinct
  | .absent => .absent
  | .rows => .rows
  | .keys keys => .keys (renameExprs names keys)

def renameItems (names : Renaming) : List SelectItem → List SelectItem
  | [] => []
  | .expr expr :: rest => .expr (expr.rename names) :: renameItems names rest
  | .wildcard replacements :: rest =>
    .wildcard (renameExprs names replacements) :: renameItems names rest

def GroupBy.rename (names : Renaming) : GroupBy → GroupBy
  | .all => .all
  | .keys keys => .keys (renameExprs names keys)

def renameTables (names : Renaming) : List TableRef → List TableRef
  | [] => []
  | table :: rest => table.rename names :: renameTables names rest

def TableRef.rename (names : Renaming) : TableRef → TableRef
  | ⟨relation, joins⟩ => ⟨relation.rename names, renameJoins names joins⟩

def renameJoins (names : Renaming) : List Join → List Join
  | [] => []
  | ⟨relation, matching, condition, aside⟩ :: rest =>
    ⟨relation.rename names, renameOption names matching, renameOption names condition,
      renameExprs names aside⟩ :: renameJoins names rest

def Factor.rename (names : Renaming) : Factor → Factor
  | .table name aside => .table (ObjectName.rename names.table name) (renameExprs names aside)
  | .derived query aside => .derived (query.rename names) (renameExprs names aside)
  | .nestedJoin table aside => .nestedJoin (table.rename names) (renameExprs names aside)
  | .unnest arrays aside => .unnest (renameExprs names arrays) (renameExprs names aside)
  | .tableFunction expr aside => .tableFunction (expr.rename names) (renameExprs names aside)
  | .reshaped relation aside => .reshaped (relation.rename names) (renameExprs names aside)
  | .other aside => .other (renameExprs names aside)

def Expr.rename (names : Renaming) : Expr → Expr
  | .atom kind aside => .atom kind (renameExprs names aside)
  | .call made => .call (made.rename names)
  | .unary form operand aside => .unary form (operand.rename names) (renameExprs names aside)
  | .binary form left right => .binary form (left.rename names) (right.rename names)
  | .between operand low high =>
    .between (operand.rename names) (low.rename names) (high.rename names)
  | .substring operand start count =>
    .substring (operand.rename names) (renameOption names start) (renameOption names count)
  | .trim operand what characters =>
    .trim (operand.rename names) (renameOption names what) (renameExprs names characters)
  | .overlay operand what start count =>
    .overlay (operand.rename names) (what.rename names) (start.rename names)
      (renameOption names count)
  | .convert operand styles aside =>
    .convert (operand.rename names) (renameExprs names styles) (renameExprs names aside)
  | .choice operand arms otherwise =>
    .choice (renameOption names operand) (renamePairs names arms) (renameOption names otherwise)
  | .access root chain => .access (root.rename names) (renameChain names chain)
  | .map entries => .map (renamePairs names entries)
  | .row form items aside => .row form (renameExprs names items) (renameExprs names aside)
  | .grouping form sets => .grouping form (renameRows names sets)
  | .inList operand items => .inList (operand.rename names) (renameExprs names items)
  | .inSubquery operand query => .inSubquery (operand.rename names) (query.rename names)
  | .subquery query => .subquery (query.rename names)
  | .existsIn query => .existsIn (query.rename names)

def renameOption (names : Renaming) : Option Expr → Option Expr
  | none => none
  | some expr => some (expr.rename names)

def renameExprs (names : Renaming) : List Expr → List Expr
  | [] => []
  | expr :: rest => expr.rename names :: renameExprs names rest

def renameRows (names : Renaming) : List (List Expr) → List (List Expr)
  | [] => []
  | row :: rest => renameExprs names row :: renameRows names rest

def renamePairs (names : Renaming) : List (Expr × Expr) → List (Expr × Expr)
  | [] => []
  | (first, second) :: rest =>
    (first.rename names, second.rename names) :: renamePairs names rest

def renameChain (names : Renaming) : List Access → List Access
  | [] => []
  | .field expr :: rest => .field (expr.rename names) :: renameChain names rest
  | .index expr :: rest => .index (expr.rename names) :: renameChain names rest
  | .slice lower upper stride :: rest =>
    .slice (renameOption names lower) (renameOption names upper) (renameOption names stride) ::
      renameChain names rest

def Call.rename (names : Renaming) : Call → Call
  | ⟨name, parameters, arguments, filter, withinGroup, window, aside⟩ =>
    ⟨ObjectName.rename names.call name, parameters.rename names, arguments.rename names,
      renameOption names filter, renameExprs names withinGroup, window.rename names,
      renameExprs names aside⟩

def Window.rename (names : Renaming) : Window → Window
  | .absent => .absent
  | .named => .named
  | .spec partitionBy orderBy => .spec (renameExprs names partitionBy) (renameExprs names orderBy)

def Arguments.rename (names : Renaming) : Arguments → Arguments
  | .absent => .absent
  | .subquery query => .subquery (query.rename names)
  | .list arguments clauses => .list (renameArguments names arguments) (renameClauses names clauses)

def renameArguments (names : Renaming) : List Argument → List Argument
  | [] => []
  | .plain value :: rest => .plain (renameOption names value) :: renameArguments names rest
  | .labelled label value :: rest =>
    .labelled (label.rename names) (renameOption names value) :: renameArguments names rest

def renameClauses (names : Renaming) : List ArgumentClause → List ArgumentClause
  | [] => []
  | .orderBy keys :: rest => .orderBy (renameExprs names keys) :: renameClauses names rest
  | .limit count :: rest => .limit (count.rename names) :: renameClauses names rest
  | .other :: rest => .other :: renameClauses names rest

end

def Cte.rename (names : Renaming) (cte : Cte) : Cte :=
  ⟨names.table cte.name, cte.query.rename names⟩

theorem renameCtes_eq_map (names : Renaming) (ctes : List Cte) :
    renameCtes names ctes = ctes.map (Cte.rename names) := by
  induction ctes with
  | nil => rfl
  | cons cte rest ih =>
    cases cte
    rw [renameCtes, ih]
    rfl

theorem Query.withClause_rename (names : Renaming) (query : Query) :
    (query.rename names).withClause = query.withClause.map (·.map (Cte.rename names)) := by
  obtain ⟨withClause, body, orderBy, aside⟩ := query
  cases withClause with
  | none => rfl
  | some ctes => simp only [Query.rename, renameWith, renameCtes_eq_map, Option.map_some]

def Item.rename (names : Renaming) : Item → Item
  | .query inner => .query (inner.rename names)
  | .body inner => .body (inner.rename names)
  | .relation inner => .relation (inner.rename names)
  | .expr inner => .expr (inner.rename names)

def Node.rename (names : Renaming) : Node → Node
  | .withClause ctes => .withClause (ctes.map (Cte.rename names))
  | .select block => .select (block.rename names)
  | .table name => .table (ObjectName.rename names.table name)
  | .call made => .call (made.rename names)
  | .predicate condition => .predicate (condition.rename names)

theorem Node.isPredicate_rename (names : Renaming) (node : Node) :
    (node.rename names).isPredicate = node.isPredicate := by
  cases node <;> rfl

def Part.rename (names : Renaming) : Part → Part
  | .landmark ⟨node, plain⟩ =>
    .landmark ⟨node.rename names, (Node.isPredicate_rename names node).trans plain⟩
  | .item inner => .item (inner.rename names)
  | .condition tested => .condition (tested.rename names)

def MergeAction.rename (names : Renaming) : MergeAction → MergeAction
  | .update values => .update (renameExprs names values)
  | .insertRows rows => .insertRows (renameRows names rows)
  | .other => .other

def MergeClause.rename (names : Renaming) (clause : MergeClause) : MergeClause :=
  ⟨renameOption names clause.predicate, clause.action.rename names⟩

def Statement.rename (names : Renaming) : Statement → Statement
  | .query carried => .query (carried.rename names)
  | .insert source aside => .insert (source.map (Query.rename names)) (renameExprs names aside)
  | .createView carried => .createView (carried.rename names)
  | .createTable carried => .createTable (carried.map (Query.rename names))
  | .update target values sources selection aside =>
    .update (target.rename names) (renameExprs names values) (renameTables names sources)
      (renameOption names selection) (renameExprs names aside)
  | .delete targets sources selection aside =>
    .delete (renameTables names targets) (renameTables names sources)
      (renameOption names selection) (renameExprs names aside)
  | .merge target source condition clauses aside =>
    .merge (target.rename names) (source.rename names) (condition.rename names)
      (clauses.map (MergeClause.rename names)) (renameExprs names aside)
  | .other kind => .other kind

section Parts

variable (names : Renaming)

/-- Some parts, each renamed. -/
def renameParts (parts : List Part) : List Part := parts.map (Part.rename names)

@[simp]
theorem renameParts_nil : renameParts names [] = [] := rfl

@[simp]
theorem renameParts_cons (part : Part) (parts : List Part) :
    renameParts names (part :: parts) = part.rename names :: renameParts names parts := rfl

@[simp]
theorem renameParts_append (first second : List Part) :
    renameParts names (first ++ second) = renameParts names first ++ renameParts names second :=
  List.map_append

@[simp]
theorem exprParts_renameExprs (exprs : List Expr) :
    exprParts (renameExprs names exprs) = renameParts names (exprParts exprs) := by
  induction exprs with
  | nil => rfl
  | cons expr rest ih => simp [renameExprs, ih, Part.rename, Item.rename]

@[simp]
theorem exprParts_renameOption (expr : Option Expr) :
    exprParts (renameOption names expr).toList = renameParts names (exprParts expr.toList) := by
  cases expr <;> rfl

@[simp]
theorem exprParts_renameRows (rows : List (List Expr)) :
    exprParts (renameRows names rows).flatten = renameParts names (exprParts rows.flatten) := by
  induction rows with
  | nil => rfl
  | cons row rest ih => simp [renameRows, ih]

@[simp]
theorem exprParts_renamePairs (pairs : List (Expr × Expr)) :
    exprParts ((renamePairs names pairs).flatMap fun pair => [pair.1, pair.2]) =
      renameParts names (exprParts (pairs.flatMap fun pair => [pair.1, pair.2])) := by
  induction pairs with
  | nil => rfl
  | cons pair rest ih =>
    obtain ⟨first, second⟩ := pair
    simp [renamePairs, ih, Part.rename, Item.rename]

@[simp]
theorem whereParts_renameOption (selection : Option Expr) :
    whereParts (renameOption names selection) = renameParts names (whereParts selection) := by
  cases selection <;> rfl

@[simp]
theorem parts_renameChain (chain : List Access) :
    (renameChain names chain).flatMap Access.parts =
      renameParts names (chain.flatMap Access.parts) := by
  induction chain with
  | nil => rfl
  | cons access rest ih =>
    cases access <;> simp [renameChain, Access.parts, ih, Part.rename, Item.rename]

@[simp]
theorem parts_renameArguments (arguments : List Argument) :
    (renameArguments names arguments).flatMap Argument.parts =
      renameParts names (arguments.flatMap Argument.parts) := by
  induction arguments with
  | nil => rfl
  | cons argument rest ih =>
    cases argument <;> simp [renameArguments, Argument.parts, ih, Part.rename, Item.rename]

@[simp]
theorem parts_renameClauses (clauses : List ArgumentClause) :
    (renameClauses names clauses).flatMap ArgumentClause.parts =
      renameParts names (clauses.flatMap ArgumentClause.parts) := by
  induction clauses with
  | nil => rfl
  | cons clause rest ih =>
    cases clause <;> simp [renameClauses, ArgumentClause.parts, ih, Part.rename, Item.rename]

@[simp]
theorem Arguments.parts_rename (arguments : Arguments) :
    (arguments.rename names).parts = renameParts names arguments.parts := by
  cases arguments <;> simp [Arguments.rename, Arguments.parts, Part.rename, Item.rename]

@[simp]
theorem Window.parts_rename (window : Window) :
    (window.rename names).parts = renameParts names window.parts := by
  cases window <;> simp [Window.rename, Window.parts]

theorem Call.parts_rename (call : Call) :
    (call.rename names).parts = renameParts names call.parts := by
  cases call
  simp [Call.rename, Call.parts, Part.rename, Node.rename]

theorem Expr.parts_rename (expr : Expr) :
    (expr.rename names).parts = renameParts names expr.parts := by
  cases expr with
  | call made => simp [Expr.rename, Expr.parts, Call.parts_rename]
  | _ => simp [Expr.rename, Expr.parts, Part.rename, Item.rename]

@[simp]
theorem parts_renameJoins (joins : List Join) :
    (renameJoins names joins).flatMap Join.parts =
      renameParts names (joins.flatMap Join.parts) := by
  induction joins with
  | nil => rfl
  | cons join rest ih =>
    obtain ⟨relation, matching, condition, aside⟩ := join
    simp [renameJoins, Join.parts, ih, Part.rename, Item.rename]

@[simp]
theorem TableRef.parts_rename (table : TableRef) :
    (table.rename names).parts = renameParts names table.parts := by
  cases table
  simp [TableRef.rename, TableRef.parts, Part.rename, Item.rename]

@[simp]
theorem parts_renameTables (tables : List TableRef) :
    (renameTables names tables).flatMap TableRef.parts =
      renameParts names (tables.flatMap TableRef.parts) := by
  induction tables with
  | nil => rfl
  | cons table rest ih => simp [renameTables, ih]

theorem Factor.parts_rename (relation : Factor) :
    (relation.rename names).parts = renameParts names relation.parts := by
  cases relation <;> simp [Factor.rename, Factor.parts, Part.rename, Item.rename, Node.rename]

@[simp]
theorem parts_renameItems (items : List SelectItem) :
    (renameItems names items).flatMap SelectItem.parts =
      renameParts names (items.flatMap SelectItem.parts) := by
  induction items with
  | nil => rfl
  | cons item rest ih =>
    cases item <;> simp [renameItems, SelectItem.parts, ih, Part.rename, Item.rename]

@[simp]
theorem GroupBy.parts_rename (groupBy : GroupBy) :
    (groupBy.rename names).parts = renameParts names groupBy.parts := by
  cases groupBy <;> simp [GroupBy.rename, GroupBy.parts]

theorem Select.parts_rename (select : Select) :
    (select.rename names).parts = renameParts names select.parts := by
  cases select
  simp [Select.rename, Select.parts, Part.rename, Node.rename]

theorem Body.parts_rename (body : Body) :
    (body.rename names).parts = renameParts names body.parts := by
  cases body with
  | select block => simp [Body.rename, Body.parts, Select.parts_rename]
  | _ => simp [Body.rename, Body.parts, Part.rename, Item.rename]

theorem withParts_rename (withClause : Option (List Cte)) :
    withParts (withClause.map (·.map (Cte.rename names))) =
      renameParts names (withParts withClause) := by
  cases withClause with
  | none => rfl
  | some ctes =>
    simp [withParts, renameParts, Part.rename, Item.rename, Node.rename, Cte.rename]

theorem Query.bodyParts_rename (query : Query) :
    (query.rename names).bodyParts = renameParts names query.bodyParts := by
  cases query
  simp [Query.rename, Query.bodyParts, Part.rename, Item.rename]

theorem Item.parts_rename (item : Item) :
    (item.rename names).parts = renameParts names item.parts := by
  cases item with
  | query query =>
    simp only [Item.rename, Item.parts, Query.parts, Query.withClause_rename, withParts_rename,
      Query.bodyParts_rename, renameParts_append]
  | body body => exact body.parts_rename names
  | relation relation => exact relation.parts_rename names
  | expr expr => exact expr.parts_rename names

@[simp]
theorem parts_renameMerge (clauses : List MergeClause) :
    (clauses.map (MergeClause.rename names)).flatMap MergeClause.parts =
      renameParts names (clauses.flatMap MergeClause.parts) := by
  induction clauses with
  | nil => rfl
  | cons clause rest ih =>
    obtain ⟨predicate, action⟩ := clause
    cases action <;>
      simp [MergeClause.rename, MergeAction.rename, MergeClause.parts, MergeAction.parts, ih]

theorem Statement.query?_rename (statement : Statement) :
    (statement.rename names).query? = statement.query?.map (Query.rename names) := by
  cases statement <;> rfl

theorem Statement.parts_rename (statement : Statement) :
    (statement.rename names).parts = renameParts names statement.parts := by
  cases statement with
  | insert source aside => cases source <;> rfl
  | createTable carried => cases carried <;> rfl
  | _ =>
    simp [Statement.rename, Statement.parts, Statement.query?, Statement.clauses, Part.rename,
      Item.rename]

end Parts

section Walk

variable (names : Renaming) (limit : Nat)

theorem within_map (depth : Nat) (nodes : List Node) :
    within limit depth (nodes.map (Node.rename names)) =
      (within limit depth nodes).map (Node.rename names) := by
  unfold within
  split <;> rfl

theorem walkParts_rename (depth : Nat) (parts : List Part)
    (inner : ∀ part ∈ parts, ∀ item, part.entered = some item →
      (item.rename names).walk limit depth = (item.walk limit depth).map (Node.rename names)) :
    walkParts limit depth (renameParts names parts) =
      (walkParts limit depth parts).map (Node.rename names) := by
  induction parts with
  | nil => rfl
  | cons part rest ih =>
    have others := ih fun other member => inner other (List.mem_cons_of_mem _ member)
    rw [renameParts_cons, walkParts_cons, walkParts_cons, others, List.map_append]
    congr 1
    cases part with
    | landmark place => rfl
    | item item => exact inner (.item item) List.mem_cons_self item rfl
    | condition tested =>
      have entered := inner (.condition tested) List.mem_cons_self (.expr tested) rfl
      exact congrArg (Node.predicate (tested.rename names) :: ·) entered

/-- The walk of a renamed item lists the renamed nodes. -/
theorem Item.walk_rename (item : Item) (depth : Nat) :
    (item.rename names).walk limit depth = (item.walk limit depth).map (Node.rename names) := by
  induction item using Item.walkInduction generalizing depth with
  | step item ih =>
    rw [Item.walk_eq, Item.walk_eq, Item.parts_rename, ← within_map]
    congr 1
    apply walkParts_rename
    intro part held inner entered
    exact ih part held inner entered (depth + 1)

theorem Query.walkBody_rename (query : Query) (depth : Nat) (small : depth + 1 < wordBound) :
    (query.rename names).walkBody limit depth =
      (query.walkBody limit depth).map (Node.rename names) := by
  rw [Query.walkBody_eq _ _ _ small, Query.walkBody_eq _ _ _ small, Query.bodyParts_rename]
  apply walkParts_rename
  intro _ _ item _
  exact Item.walk_rename names limit item (depth + 1)

theorem Statement.walk_rename (statement : Statement) :
    (statement.rename names).walk limit = (statement.walk limit).map (Node.rename names) := by
  have start : (statement.rename names).startDepth = statement.startDepth := by
    rw [Statement.startDepth, Statement.startDepth, Statement.query?_rename, Option.isSome_map]
  rw [Statement.walk_eq, Statement.walk_eq, start, Statement.parts_rename]
  apply walkParts_rename
  intro _ _ item _
  exact Item.walk_rename names limit item statement.startDepth

end Walk

end QueryLint.Sql
