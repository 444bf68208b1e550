import QueryLint.Proofs.Walk.Preorder

/-!
Items without what they lead to. The outline of an item keeps its form, its names and the number of
things in each of its lists, and puts a hole in the place of every item that a walk enters from it.
What no walk ever enters is left out: the keys of `DISTINCT ON`, the `MATCH_CONDITION` of a join and
all that is held aside.

Of each part of an item, its outline still tells whether the part is a node, an item or a condition,
and for a node what can be said of it without looking inside.
-/

namespace QueryLint.Sql

def Expr.hole : Expr := .atom "" []

def Body.hole : Body := .other []

def Query.hole : Query := ⟨none, .hole, [], []⟩

def Factor.hole : Factor := .other []

/-- The place of an optional expression. -/
def blank (expr : Option Expr) : Option Expr := expr.map fun _ => .hole

/-- The places of some expressions. -/
def blanks (exprs : List Expr) : List Expr := exprs.map fun _ => .hole

def Access.outline : Access → Access
  | .field _ => .field .hole
  | .index _ => .index .hole
  | .slice lower upper stride => .slice (blank lower) (blank upper) (blank stride)

def Argument.outline : Argument → Argument
  | .plain value => .plain (blank value)
  | .labelled _ value => .labelled .hole (blank value)

def ArgumentClause.outline : ArgumentClause → ArgumentClause
  | .orderBy keys => .orderBy (blanks keys)
  | .limit _ => .limit .hole
  | .other => .other

def Arguments.outline : Arguments → Arguments
  | .absent => .absent
  | .subquery _ => .subquery .hole
  | .list arguments clauses =>
    .list (arguments.map Argument.outline) (clauses.map ArgumentClause.outline)

def Window.outline : Window → Window
  | .absent => .absent
  | .named => .named
  | .spec partitionBy orderBy => .spec (blanks partitionBy) (blanks orderBy)

def Call.outline (call : Call) : Call where
  name := call.name
  parameters := call.parameters.outline
  arguments := call.arguments.outline
  filter := blank call.filter
  withinGroup := blanks call.withinGroup
  window := call.window.outline
  aside := []

def Expr.outline : Expr → Expr
  | .atom kind _ => .atom kind []
  | .call made => .call made.outline
  | .unary form _ _ => .unary form .hole []
  | .binary form _ _ => .binary form .hole .hole
  | .between _ _ _ => .between .hole .hole .hole
  | .substring _ start count => .substring .hole (blank start) (blank count)
  | .trim _ what characters => .trim .hole (blank what) (blanks characters)
  | .overlay _ _ _ count => .overlay .hole .hole .hole (blank count)
  | .convert _ styles _ => .convert .hole (blanks styles) []
  | .choice operand arms otherwise =>
    .choice (blank operand) (arms.map fun _ => (.hole, .hole)) (blank otherwise)
  | .access _ chain => .access .hole (chain.map Access.outline)
  | .map entries => .map (entries.map fun _ => (.hole, .hole))
  | .row form items _ => .row form (blanks items) []
  | .grouping form sets => .grouping form (sets.map blanks)
  | .inList _ items => .inList .hole (blanks items)
  | .inSubquery _ _ => .inSubquery .hole .hole
  | .subquery _ => .subquery .hole
  | .existsIn _ => .existsIn .hole

def Join.outline (join : Join) : Join := ⟨.hole, none, blank join.condition, []⟩

def TableRef.outline (table : TableRef) : TableRef := ⟨.hole, table.joins.map Join.outline⟩

def Factor.outline : Factor → Factor
  | .table name _ => .table name []
  | .derived _ _ => .derived .hole []
  | .nestedJoin joined _ => .nestedJoin joined.outline []
  | .unnest arrays _ => .unnest (blanks arrays) []
  | .tableFunction _ _ => .tableFunction .hole []
  | .reshaped _ _ => .reshaped .hole []
  | .other _ => .other []

def SelectItem.outline : SelectItem → SelectItem
  | .expr _ => .expr .hole
  | .wildcard replacements => .wildcard (blanks replacements)

def GroupBy.outline : GroupBy → GroupBy
  | .all => .all
  | .keys exprs => .keys (blanks exprs)

def Distinct.outline : Distinct → Distinct
  | .absent => .absent
  | .rows => .rows
  | .keys _ => .keys []

def Select.outline (select : Select) : Select where
  distinct := select.distinct.outline
  projection := select.projection.map SelectItem.outline
  tables := select.tables.map TableRef.outline
  selection := blank select.selection
  groupBy := select.groupBy.outline
  having := blank select.having
  qualify := blank select.qualify
  aside := []

def Body.outline : Body → Body
  | .select block => .select block.outline
  | .nested _ => .nested .hole
  | .setOperation _ _ => .setOperation .hole .hole
  | .values rows => .values (rows.map blanks)
  | .other _ => .other []

def Cte.outline (cte : Cte) : Cte := ⟨cte.name, .hole⟩

def Query.outline (query : Query) : Query :=
  ⟨query.withClause.map (·.map Cte.outline), .hole, blanks query.orderBy, []⟩

def Item.outline : Item → Item
  | .query inner => .query inner.outline
  | .body inner => .body inner.outline
  | .relation inner => .relation inner.outline
  | .expr inner => .expr inner.outline

def MergeAction.outline : MergeAction → MergeAction
  | .update values => .update (blanks values)
  | .insertRows rows => .insertRows (rows.map blanks)
  | .other => .other

def MergeClause.outline (clause : MergeClause) : MergeClause :=
  ⟨blank clause.predicate, clause.action.outline⟩

def Statement.outline : Statement → Statement
  | .query _ => .query .hole
  | .insert source _ => .insert (source.map fun _ => .hole) []
  | .createView _ => .createView .hole
  | .createTable carried => .createTable (carried.map fun _ => .hole)
  | .update target values sources selection _ =>
    .update target.outline (blanks values) (sources.map TableRef.outline) (blank selection) []
  | .delete targets sources selection _ =>
    .delete (targets.map TableRef.outline) (sources.map TableRef.outline) (blank selection) []
  | .merge _ _ _ clauses _ => .merge .hole .hole .hole (clauses.map MergeClause.outline) []
  | .other kind => .other kind

/-- What can be told of a node without looking inside. -/
inductive Sign
  | withClause
  | select
  | table (name : ObjectName)
  | call (name : ObjectName)
  | predicate
deriving DecidableEq

def Node.sign : Node → Sign
  | .withClause _ => .withClause
  | .select _ => .select
  | .table name => .table name
  | .call made => .call made.name
  | .predicate _ => .predicate

/-- The sign of what is listed for a part; an item to enter has none. -/
def Part.sign : Part → Option Sign
  | .landmark place => some place.val.sign
  | .item _ => none
  | .condition _ => some .predicate

def signs (parts : List Part) : List (Option Sign) := parts.map Part.sign

section Signs

@[simp]
theorem signs_cons (part : Part) (parts : List Part) :
    signs (part :: parts) = part.sign :: signs parts := rfl

@[simp]
theorem signs_append (first second : List Part) :
    signs (first ++ second) = signs first ++ signs second := List.map_append

@[simp]
theorem signs_exprParts (exprs : List Expr) :
    signs (exprParts exprs) = List.replicate exprs.length none := by
  induction exprs with
  | nil => rfl
  | cons expr rest ih =>
    rw [exprParts_cons, signs_cons, ih, List.length_cons, List.replicate_succ, Part.sign]

@[simp]
theorem length_blanks (exprs : List Expr) : (blanks exprs).length = exprs.length :=
  List.length_map _

@[simp]
theorem length_blank (expr : Option Expr) : (blank expr).toList.length = expr.toList.length := by
  cases expr <;> rfl

/-- Parts that the members of a list hold. -/
theorem signs_flatMap {α : Type} (parts : α → List Part) (outline : α → α)
    (each : ∀ holder, signs (parts (outline holder)) = signs (parts holder)) (holders : List α) :
    signs ((holders.map outline).flatMap parts) = signs (holders.flatMap parts) := by
  induction holders with
  | nil => rfl
  | cons holder rest ih =>
    rw [List.map_cons, List.flatMap_cons, List.flatMap_cons, signs_append, signs_append, each, ih]

@[simp]
theorem Access.signs_outline (access : Access) :
    signs access.outline.parts = signs access.parts := by
  cases access <;> simp [Access.outline, Access.parts, Part.sign]

@[simp]
theorem Argument.signs_outline (argument : Argument) :
    signs argument.outline.parts = signs argument.parts := by
  cases argument <;> simp [Argument.outline, Argument.parts, Part.sign]

@[simp]
theorem ArgumentClause.signs_outline (clause : ArgumentClause) :
    signs clause.outline.parts = signs clause.parts := by
  cases clause <;> simp [ArgumentClause.outline, ArgumentClause.parts, Part.sign]

@[simp]
theorem Arguments.signs_outline (arguments : Arguments) :
    signs arguments.outline.parts = signs arguments.parts := by
  cases arguments with
  | list arguments clauses =>
    rw [Arguments.outline, Arguments.parts, Arguments.parts, signs_append, signs_append,
      signs_flatMap _ _ Argument.signs_outline, signs_flatMap _ _ ArgumentClause.signs_outline]
  | _ => rfl

@[simp]
theorem Window.signs_outline (window : Window) :
    signs window.outline.parts = signs window.parts := by
  cases window <;> simp [Window.outline, Window.parts]

theorem Call.signs_outline (call : Call) : signs call.outline.parts = signs call.parts := by
  simp [Call.outline, Call.parts, Part.sign, Node.sign]

theorem Expr.signs_outline (expr : Expr) : signs expr.outline.parts = signs expr.parts := by
  cases expr with
  | call made => exact made.signs_outline
  | access root chain =>
    simp [Expr.outline, Expr.parts, Part.sign, signs_flatMap _ _ Access.signs_outline]
  | _ => simp [Expr.outline, Expr.parts, Part.sign, List.length_flatMap, Function.comp_def]

@[simp]
theorem Join.signs_outline (join : Join) : signs join.outline.parts = signs join.parts := by
  simp [Join.outline, Join.parts, Part.sign]

@[simp]
theorem TableRef.signs_outline (table : TableRef) :
    signs table.outline.parts = signs table.parts := by
  simp [TableRef.outline, TableRef.parts, Part.sign, signs_flatMap _ _ Join.signs_outline]

theorem signs_tables (tables : List TableRef) :
    signs ((tables.map TableRef.outline).flatMap TableRef.parts) =
      signs (tables.flatMap TableRef.parts) :=
  signs_flatMap _ _ TableRef.signs_outline tables

theorem Factor.signs_outline (relation : Factor) :
    signs relation.outline.parts = signs relation.parts := by
  cases relation with
  | nestedJoin joined aside => exact joined.signs_outline
  | _ => simp [Factor.outline, Factor.parts, Part.sign]

@[simp]
theorem SelectItem.signs_outline (item : SelectItem) :
    signs item.outline.parts = signs item.parts := by
  cases item <;> simp [SelectItem.outline, SelectItem.parts, Part.sign]

theorem signs_projection (items : List SelectItem) :
    signs ((items.map SelectItem.outline).flatMap SelectItem.parts) =
      signs (items.flatMap SelectItem.parts) :=
  signs_flatMap _ _ SelectItem.signs_outline items

@[simp]
theorem GroupBy.signs_outline (groupBy : GroupBy) :
    signs groupBy.outline.parts = signs groupBy.parts := by
  cases groupBy <;> simp [GroupBy.outline, GroupBy.parts]

@[simp]
theorem signs_where (selection : Option Expr) :
    signs (whereParts (blank selection)) = signs (whereParts selection) := by
  cases selection <;> rfl

theorem Select.signs_outline (select : Select) :
    signs select.outline.parts = signs select.parts := by
  simp [Select.outline, Select.parts, signs_projection, signs_tables, Part.sign, Node.sign]

theorem Body.signs_outline (body : Body) : signs body.outline.parts = signs body.parts := by
  cases body with
  | select block => exact block.signs_outline
  | _ => simp [Body.outline, Body.parts, Part.sign, Function.comp_def]

theorem signs_with (withClause : Option (List Cte)) :
    signs (withParts (withClause.map (·.map Cte.outline))) = signs (withParts withClause) := by
  cases withClause with
  | none => rfl
  | some ctes => simp [withParts, signs, Part.sign, Node.sign, Function.comp_def]

theorem Query.signs_outline (query : Query) : signs query.outline.parts = signs query.parts := by
  simp [Query.outline, Query.parts, Query.bodyParts, signs_with, Part.sign]

/-- The outline of an item tells of what kind each of its parts is. -/
theorem Item.signs_outline (item : Item) : signs item.outline.parts = signs item.parts := by
  cases item with
  | query query => exact query.signs_outline
  | body body => exact body.signs_outline
  | relation relation => exact relation.signs_outline
  | expr expr => exact expr.signs_outline

theorem MergeClause.signs_outline (clause : MergeClause) :
    signs clause.outline.parts = signs clause.parts := by
  obtain ⟨predicate, action⟩ := clause
  cases action <;>
    simp [MergeClause.outline, MergeAction.outline, MergeClause.parts, MergeAction.parts,
      Function.comp_def]

theorem Statement.isSome_query?_outline (statement : Statement) :
    statement.outline.query?.isSome = statement.query?.isSome := by
  cases statement <;> simp [Statement.outline, Statement.query?]

theorem Statement.signs_outline (statement : Statement) :
    signs statement.outline.parts = signs statement.parts := by
  cases statement with
  | query carried => rfl
  | createView carried => rfl
  | other kind => rfl
  | insert source aside => cases source <;> rfl
  | createTable carried => cases carried <;> rfl
  | update target values sources selection aside =>
    simp [Statement.outline, Statement.parts, Statement.query?, Statement.clauses, signs_tables]
  | delete targets sources selection aside =>
    simp [Statement.outline, Statement.parts, Statement.query?, Statement.clauses, signs_tables]
  | merge target source condition clauses aside =>
    simp [Statement.outline, Statement.parts, Statement.query?, Statement.clauses, Part.sign,
      signs_flatMap _ _ MergeClause.signs_outline]

end Signs

end QueryLint.Sql
