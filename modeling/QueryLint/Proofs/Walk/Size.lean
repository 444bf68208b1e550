import QueryLint.Proofs.Walk.Parts

/-!
The tree below an item is finite: what an item leads to is smaller than the item, however many lists
and optional clauses lie between the two. From this comes induction along the walk, in one step for
all kinds of items.
-/

namespace QueryLint.Sql

/-- The size of the tree that an item is. -/
noncomputable def Item.size : Item → Nat
  | .query inner => sizeOf inner
  | .body inner => sizeOf inner
  | .relation inner => sizeOf inner
  | .expr inner => sizeOf inner

/-- All that some parts lead to is smaller than a bound. -/
def PartsBelow (bound : Nat) (parts : List Part) : Prop :=
  ∀ part ∈ parts, ∀ item, part.entered = some item → item.size < bound

@[simp]
theorem partsBelow_nil (bound : Nat) : PartsBelow bound [] := by
  intro part member
  cases member

@[simp]
theorem partsBelow_landmark (bound : Nat) (place : Landmark) (parts : List Part) :
    PartsBelow bound (.landmark place :: parts) ↔ PartsBelow bound parts := by
  simp [PartsBelow, Part.entered]

@[simp]
theorem partsBelow_item (bound : Nat) (inner : Item) (parts : List Part) :
    PartsBelow bound (.item inner :: parts) ↔ inner.size < bound ∧ PartsBelow bound parts := by
  simp [PartsBelow, Part.entered]

@[simp]
theorem partsBelow_append (bound : Nat) (first second : List Part) :
    PartsBelow bound (first ++ second) ↔ PartsBelow bound first ∧ PartsBelow bound second := by
  simp only [PartsBelow, List.forall_mem_append]

/-- Parts that the members of a list hold. -/
theorem partsBelow_flatMap {α : Type} [SizeOf α] {bound : Nat} (parts : α → List Part)
    (each : ∀ holder, PartsBelow (sizeOf holder) (parts holder)) (holders : List α)
    (le : sizeOf holders ≤ bound) : PartsBelow bound (holders.flatMap parts) := by
  intro part member item entered
  obtain ⟨holder, present, here⟩ := List.mem_flatMap.mp member
  have inside := each holder part here item entered
  have smaller := List.sizeOf_lt_of_mem present
  omega

theorem partsBelow_exprs {bound : Nat} (exprs : List Expr) (le : sizeOf exprs ≤ bound) :
    PartsBelow bound (exprParts exprs) := by
  intro part member item entered
  obtain ⟨expr, present, rfl⟩ := List.mem_map.mp member
  cases entered
  exact Nat.lt_of_lt_of_le (List.sizeOf_lt_of_mem present) le

theorem partsBelow_option {bound : Nat} (expr : Option Expr) (le : sizeOf expr ≤ bound) :
    PartsBelow bound (exprParts expr.toList) := by
  cases expr with
  | none => exact partsBelow_nil _
  | some expr =>
    simp only [Option.some.sizeOf_spec] at le
    simp [Item.size]
    omega

theorem partsBelow_where {bound : Nat} (selection : Option Expr) (le : sizeOf selection ≤ bound) :
    PartsBelow bound (whereParts selection) := by
  cases selection with
  | none => exact partsBelow_nil _
  | some condition =>
    simp only [Option.some.sizeOf_spec] at le
    simp [whereParts, PartsBelow, Part.entered, Item.size]
    omega

theorem partsBelow_rows {bound : Nat} (rows : List (List Expr)) (le : sizeOf rows ≤ bound) :
    PartsBelow bound (exprParts rows.flatten) := by
  have parts : exprParts rows.flatten = rows.flatMap exprParts := List.map_flatten
  rw [parts]
  exact partsBelow_flatMap exprParts (fun row => partsBelow_exprs row (Nat.le_refl _)) rows le

theorem partsBelow_pairs {bound : Nat} (pairs : List (Expr × Expr)) (le : sizeOf pairs ≤ bound) :
    PartsBelow bound (exprParts (pairs.flatMap fun pair => [pair.1, pair.2])) := by
  have parts : exprParts (pairs.flatMap fun pair => [pair.1, pair.2]) =
      pairs.flatMap fun pair => exprParts [pair.1, pair.2] := List.map_flatMap
  rw [parts]
  refine partsBelow_flatMap _ ?_ pairs le
  intro pair
  obtain ⟨first, second⟩ := pair
  simp [Item.size]
  omega

theorem Access.partsBelow (access : Access) : PartsBelow (sizeOf access) access.parts := by
  cases access <;> simp (disch := omega) [Access.parts, Item.size, partsBelow_option]

theorem Argument.partsBelow (argument : Argument) :
    PartsBelow (sizeOf argument) argument.parts := by
  cases argument <;> simp (disch := omega) [Argument.parts, Item.size, partsBelow_option]
  omega

theorem ArgumentClause.partsBelow (clause : ArgumentClause) :
    PartsBelow (sizeOf clause) clause.parts := by
  cases clause <;> simp (disch := omega) [ArgumentClause.parts, Item.size, partsBelow_exprs]

theorem Arguments.partsBelow {bound : Nat} (arguments : Arguments) (le : sizeOf arguments ≤ bound) :
    PartsBelow bound arguments.parts := by
  cases arguments with
  | absent => exact partsBelow_nil _
  | subquery query =>
    simp only [Arguments.subquery.sizeOf_spec] at le
    simp [Arguments.parts, Item.size]
    omega
  | list arguments clauses =>
    simp only [Arguments.list.sizeOf_spec] at le
    rw [Arguments.parts, partsBelow_append]
    exact ⟨partsBelow_flatMap _ Argument.partsBelow arguments (by omega),
      partsBelow_flatMap _ ArgumentClause.partsBelow clauses (by omega)⟩

theorem Window.partsBelow {bound : Nat} (window : Window) (le : sizeOf window ≤ bound) :
    PartsBelow bound window.parts := by
  cases window with
  | absent => exact partsBelow_nil _
  | named => exact partsBelow_nil _
  | spec partitionBy orderBy =>
    simp only [Window.spec.sizeOf_spec] at le
    simp (disch := omega) [Window.parts, partsBelow_exprs]

theorem Call.partsBelow {bound : Nat} (call : Call) (le : sizeOf call ≤ bound) :
    PartsBelow bound call.parts := by
  cases call
  simp only [Call.mk.sizeOf_spec] at le
  simp (disch := omega) [Call.parts, Arguments.partsBelow, Window.partsBelow, partsBelow_exprs,
    partsBelow_option]

theorem partsBelow_chain {bound : Nat} (chain : List Access) (le : sizeOf chain ≤ bound) :
    PartsBelow bound (chain.flatMap Access.parts) :=
  partsBelow_flatMap _ Access.partsBelow chain le

theorem Expr.partsBelow (expr : Expr) : PartsBelow (sizeOf expr) expr.parts := by
  cases expr <;> simp (disch := omega) [Expr.parts, Item.size, partsBelow_exprs,
    partsBelow_option, partsBelow_rows, partsBelow_pairs, partsBelow_chain, Call.partsBelow] <;>
    omega

theorem Join.partsBelow (join : Join) : PartsBelow (sizeOf join) join.parts := by
  cases join
  simp (disch := omega) [Join.parts, Item.size, partsBelow_option]
  omega

theorem partsBelow_joins {bound : Nat} (joins : List Join) (le : sizeOf joins ≤ bound) :
    PartsBelow bound (joins.flatMap Join.parts) :=
  partsBelow_flatMap _ Join.partsBelow joins le

theorem TableRef.partsBelow (table : TableRef) : PartsBelow (sizeOf table) table.parts := by
  cases table
  simp (disch := omega) [TableRef.parts, Item.size, partsBelow_joins]
  omega

theorem Factor.partsBelow (relation : Factor) : PartsBelow (sizeOf relation) relation.parts := by
  cases relation with
  | nestedJoin table aside =>
    obtain ⟨relation, joins⟩ := table
    simp (disch := omega) [Factor.parts, TableRef.parts, Item.size, partsBelow_joins]
    omega
  | table | unnest | other => simp (disch := omega) [Factor.parts, partsBelow_exprs]
  | _ =>
    simp [Factor.parts, Item.size]
    omega

theorem SelectItem.partsBelow (item : SelectItem) : PartsBelow (sizeOf item) item.parts := by
  cases item <;> simp (disch := omega) [SelectItem.parts, Item.size, partsBelow_exprs]

theorem partsBelow_groupBy {bound : Nat} (groupBy : GroupBy) (le : sizeOf groupBy ≤ bound) :
    PartsBelow bound groupBy.parts := by
  cases groupBy with
  | all => exact partsBelow_nil _
  | keys keys =>
    simp only [GroupBy.keys.sizeOf_spec] at le
    exact partsBelow_exprs keys (by omega)

theorem Select.partsBelow {bound : Nat} (select : Select) (le : sizeOf select ≤ bound) :
    PartsBelow bound select.parts := by
  obtain ⟨distinct, projection, tables, selection, groupBy, having, qualify, aside⟩ := select
  simp only [Select.mk.sizeOf_spec] at le
  have items : PartsBelow bound (projection.flatMap SelectItem.parts) :=
    partsBelow_flatMap _ SelectItem.partsBelow projection (by omega)
  have joined : PartsBelow bound (tables.flatMap TableRef.parts) :=
    partsBelow_flatMap _ TableRef.partsBelow tables (by omega)
  simp (disch := omega) [Select.parts, items, joined, partsBelow_where, partsBelow_groupBy,
    partsBelow_option]

theorem Body.partsBelow (body : Body) : PartsBelow (sizeOf body) body.parts := by
  cases body <;> simp (disch := omega) [Body.parts, Item.size, Select.partsBelow, partsBelow_rows]
  omega

theorem partsBelow_with {bound : Nat} (withClause : Option (List Cte))
    (le : sizeOf withClause ≤ bound) : PartsBelow bound (withParts withClause) := by
  cases withClause with
  | none => exact partsBelow_nil _
  | some ctes =>
    rw [withParts, partsBelow_landmark]
    intro part member item entered
    obtain ⟨cte, present, rfl⟩ := List.mem_map.mp member
    cases entered
    have smaller := List.sizeOf_lt_of_mem present
    cases cte
    simp only [Option.some.sizeOf_spec, Cte.mk.sizeOf_spec] at le smaller
    simp only [Item.size]
    omega

theorem Query.partsBelow (query : Query) : PartsBelow (sizeOf query) query.parts := by
  cases query
  simp (disch := omega) [Query.parts, Query.bodyParts, Item.size, partsBelow_with,
    partsBelow_exprs]
  omega

/-- What an item leads to is smaller than the item. -/
theorem Item.size_lt (item : Item) (part : Part) (member : part ∈ item.parts) (inner : Item)
    (entered : part.entered = some inner) : inner.size < item.size := by
  cases item with
  | query query => exact query.partsBelow part member inner entered
  | body body => exact body.partsBelow part member inner entered
  | relation relation => exact relation.partsBelow part member inner entered
  | expr expr => exact expr.partsBelow part member inner entered

/-- Induction along the walk: what holds of an item if it holds of all that the item leads to holds
of every item. -/
@[elab_as_elim]
theorem Item.walkInduction {motive : Item → Prop}
    (step : ∀ item : Item, (∀ part ∈ item.parts, ∀ inner, part.entered = some inner →
      motive inner) → motive item) (item : Item) : motive item := by
  induction bound : item.size using Nat.strongRecOn generalizing item with
  | ind size ih =>
    apply step
    intro part member inner entered
    exact ih inner.size (bound ▸ Item.size_lt item part member inner entered) inner rfl

end QueryLint.Sql
