import Mathlib.Data.List.MinMax
import Mathlib.Order.Nat
import QueryLint.Proofs.Walk.Size

/-!
The listing of a tree without regard to depth, and how deep a tree goes. Main statement: as long as
the depth at which a walk starts and the height of what it walks together stay within the limit, the
walk leaves nothing out, and gives every node once in the order of the listing.
-/

namespace QueryLint.Sql

/-- The nodes of an item, each before what it contains. -/
def Item.preorder (item : Item) : List Node :=
  item.parts.attach.flatMap fun ⟨part, _⟩ =>
    part.listed ++
      match _entered : part.entered with
      | some inner => inner.preorder
      | none => []
termination_by item.size
decreasing_by exact Item.size_lt item part ‹_› inner _entered

def Part.preorder (part : Part) : List Node := part.listed ++ part.entered.elim [] Item.preorder

def preorderParts (parts : List Part) : List Node := parts.flatMap Part.preorder

theorem Item.preorder_eq (item : Item) : item.preorder = preorderParts item.parts := by
  rw [Item.preorder, List.flatMap_subtype (g := Part.preorder), List.unattach_attach, preorderParts]
  intro part member
  simp only [Part.preorder]
  split
  next inner entered => rw [entered, Option.elim_some]
  next absent => rw [absent, Option.elim_none]

/-- The greatest number of levels that lie between an item and what it leads to. -/
def Item.height (item : Item) : Nat :=
  (item.parts.attach.map fun ⟨part, _⟩ =>
    match _entered : part.entered with
    | some inner => inner.height + 1
    | none => 0).foldr max 0
termination_by item.size
decreasing_by exact Item.size_lt item part ‹_› inner _entered

/-- The levels that a part adds below the item that holds it. -/
def Part.levels (part : Part) : Nat := part.entered.elim 0 fun inner => inner.height + 1

/-- The levels that some parts add below the item that holds them. -/
def levels (parts : List Part) : Nat := (parts.map Part.levels).foldr max 0

theorem Item.height_eq (item : Item) : item.height = levels item.parts := by
  rw [Item.height, List.map_subtype (g := Part.levels), List.unattach_attach, levels]
  intro part member
  simp only [Part.levels]
  split
  next inner entered => rw [entered, Option.elim_some]
  next absent => rw [absent, Option.elim_none]

theorem height_lt_levels (parts : List Part) (part : Part) (member : part ∈ parts) (inner : Item)
    (entered : part.entered = some inner) : inner.height < levels parts := by
  have added : part.levels = inner.height + 1 := by rw [Part.levels, entered, Option.elim_some]
  have bound : part.levels ≤ levels parts :=
    List.le_max_of_le (List.mem_map_of_mem member) (Nat.le_refl _)
  omega

theorem walkParts_preorder (limit depth : Nat) (parts : List Part)
    (whole : ∀ part ∈ parts, ∀ inner, part.entered = some inner →
      inner.walk limit depth = inner.preorder) :
    walkParts limit depth parts = preorderParts parts := by
  rw [walkParts, preorderParts]
  apply List.flatMap_congr
  intro part member
  rw [Part.walk, Part.preorder]
  cases entered : part.entered with
  | none => rfl
  | some inner => rw [Option.elim_some, Option.elim_some, whole part member inner entered]

/-- Within the limit nothing is left out. -/
theorem Item.walk_preorder (limit : Nat) (item : Item) (depth : Nat)
    (fits : depth + item.height ≤ limit) : item.walk limit depth = item.preorder := by
  induction item using Item.walkInduction generalizing depth with
  | step item ih =>
    have inside : depth ≤ limit := Nat.le_trans (Nat.le_add_right _ _) fits
    rw [Item.walk_eq, within_of_le inside, Item.preorder_eq]
    apply walkParts_preorder
    intro part member inner entered
    apply ih part member inner entered
    have lower := height_lt_levels item.parts part member inner entered
    rw [Item.height_eq] at fits
    omega

/-- Parts that fit below the depth of what holds them. -/
theorem walkParts_of_fits (limit depth : Nat) (parts : List Part)
    (fits : ∀ part ∈ parts, ∀ inner, part.entered = some inner → depth + inner.height ≤ limit) :
    walkParts limit depth parts = preorderParts parts :=
  walkParts_preorder limit depth parts fun part member inner entered =>
    Item.walk_preorder limit inner depth (fits part member inner entered)

theorem Query.walkBody_preorder (query : Query) (depth : Nat)
    (fits : depth + (Item.query query).height ≤ depthLimit) :
    query.walkBody depthLimit depth = preorderParts query.bodyParts := by
  have small : depth + 1 < wordBound := by
    have bound : depth ≤ depthLimit := Nat.le_trans (Nat.le_add_right _ _) fits
    have room : depthLimit + 1 < wordBound := by decide
    omega
  rw [Query.walkBody_eq depthLimit depth query small]
  apply walkParts_of_fits
  intro part member inner entered
  have held : part ∈ (Item.query query).parts := List.mem_append_right _ member
  have lower := height_lt_levels _ part held inner entered
  rw [Item.height_eq] at fits
  omega

theorem mem_preorderParts (parts : List Part) (node : Node) :
    node ∈ preorderParts parts ↔
      ∃ part ∈ parts, node ∈ part.listed ∨
        ∃ inner, part.entered = some inner ∧ node ∈ inner.preorder := by
  rw [preorderParts, List.mem_flatMap]
  apply exists_congr
  intro part
  apply and_congr_right
  intro _
  rw [Part.preorder, List.mem_append]
  cases part.entered <;> simp

theorem entered_of_predicate_mem_listed (part : Part) (condition : Expr)
    (member : .predicate condition ∈ part.listed) : part.entered = some (.expr condition) := by
  cases part with
  | landmark place =>
    obtain ⟨node, plain⟩ := place
    cases List.mem_singleton.mp member
    cases plain
  | item inner => cases member
  | condition tested =>
    cases List.mem_singleton.mp member
    rfl

/-- A condition that is listed lies below the item. -/
theorem Item.height_predicate_lt (item : Item) (condition : Expr)
    (member : .predicate condition ∈ item.preorder) :
    (Item.expr condition).height < item.height := by
  induction item using Item.walkInduction with
  | step item ih =>
    rw [Item.preorder_eq, mem_preorderParts] at member
    rw [Item.height_eq item]
    obtain ⟨part, held, listed | ⟨inner, entered, deeper⟩⟩ := member
    · have entered := entered_of_predicate_mem_listed part condition listed
      exact height_lt_levels item.parts part held _ entered
    · have lower := height_lt_levels item.parts part held inner entered
      exact Nat.lt_trans (ih part held inner entered deeper) lower

/-- What a statement holds: the query that it carries, or else its clauses. -/
def Statement.parts (statement : Statement) : List Part :=
  match statement.query? with
  | some carried => [.item (.query carried)]
  | none => statement.clauses

/-- The greatest depth at which anything in a statement is met. -/
def Statement.deepest (statement : Statement) : Nat :=
  match statement.query? with
  | some carried => (Item.query carried).height
  | none => levels statement.clauses

theorem Statement.walk_preorder (limit : Nat) (statement : Statement)
    (fits : statement.deepest ≤ limit) : statement.walk limit = preorderParts statement.parts := by
  cases found : statement.query? with
  | none =>
    simp only [Statement.deepest, Statement.parts, found] at fits ⊢
    rw [Statement.walk_clauses limit statement found]
    apply walkParts_of_fits
    intro part member inner entered
    have lower := height_lt_levels statement.clauses part member inner entered
    omega
  | some carried =>
    simp only [Statement.deepest, Statement.parts, found] at fits ⊢
    have whole : carried.walk limit 0 = (Item.query carried).preorder :=
      Item.walk_preorder limit (.query carried) 0 (by omega)
    rw [Statement.walk_carried limit statement carried found]
    simpa [preorderParts, Part.preorder, Part.listed, Part.entered] using whole

theorem Statement.height_predicate_le (statement : Statement) (condition : Expr)
    (member : .predicate condition ∈ preorderParts statement.parts) :
    (Item.expr condition).height ≤ statement.deepest := by
  obtain ⟨part, held, found⟩ := (mem_preorderParts _ _).mp member
  cases carried : statement.query? with
  | none =>
    simp only [Statement.parts, Statement.deepest, carried] at held ⊢
    rcases found with listed | ⟨inner, entered, deeper⟩
    · have entered := entered_of_predicate_mem_listed part condition listed
      exact (height_lt_levels statement.clauses part held _ entered).le
    · have lower := height_lt_levels statement.clauses part held inner entered
      exact (Nat.lt_trans (Item.height_predicate_lt inner condition deeper) lower).le
  | some query =>
    simp only [Statement.parts, Statement.deepest, carried] at held ⊢
    cases List.mem_singleton.mp held
    rcases found with listed | ⟨inner, entered, deeper⟩
    · cases listed
    · cases entered
      exact (Item.height_predicate_lt (.query query) condition deeper).le

/-- A walk that stays within the limit is the whole listing: of a query, of a query without its
`WITH` clause, and of the clauses of a statement that carries no query, which are met at depth one. -/
theorem walk_eq_preorder :
    (∀ (query : Query) (depth : Nat), depth + (Item.query query).height ≤ depthLimit →
      query.walk depthLimit depth = (Item.query query).preorder ∧
        query.walkBody depthLimit depth = preorderParts query.bodyParts) ∧
    ∀ statement : Statement, statement.query? = none →
      (∀ part ∈ statement.clauses, ∀ item, part.entered = some item →
        1 + item.height ≤ depthLimit) →
      statement.walk depthLimit = preorderParts statement.clauses := by
  constructor
  · intro query depth fits
    exact ⟨Item.walk_preorder depthLimit (.query query) depth fits,
      Query.walkBody_preorder query depth fits⟩
  · intro statement bare fits
    rw [Statement.walk_clauses depthLimit statement bare]
    exact walkParts_of_fits depthLimit 1 statement.clauses fits

/-- A query on one table. -/
def selecting (table : ObjectName) (selection : Option Expr) : Query :=
  ⟨none, .select ⟨.absent, [], [⟨.table table [], []⟩], selection, .keys [], none, none, []⟩, [], []⟩

/-- A subquery in a condition: its table lies five levels down. -/
def nestedSelect : Query :=
  selecting [] (some (.inSubquery (.atom "Identifier" []) (selecting [.computed] none)))

theorem height_nestedSelect : (Item.query nestedSelect).height = 5 := by
  simp [nestedSelect, selecting, Item.height_eq, levels, Part.levels, Part.entered, Item.parts,
    Query.parts, Query.bodyParts, withParts, Body.parts, Select.parts, TableRef.parts,
    Factor.parts, whereParts, GroupBy.parts, Expr.parts]

/-- The limit is reached exactly: one level further down the walk loses the innermost table. -/
theorem walk_eq_preorder_nested :
    95 + (Item.query nestedSelect).height ≤ depthLimit ∧
      nestedSelect.walk depthLimit 95 = (Item.query nestedSelect).preorder ∧
      (nestedSelect.walk depthLimit 96).length < (nestedSelect.walk depthLimit 95).length ∧
      (Statement.delete [] [] (some (.existsIn nestedSelect)) []).walk depthLimit =
        preorderParts (Statement.delete [] [] (some (.existsIn nestedSelect)) []).clauses := by
  have fits : 95 + (Item.query nestedSelect).height ≤ depthLimit := by
    rw [height_nestedSelect, depthLimit]
  have clauses : ∀ part ∈ (Statement.delete [] [] (some (.existsIn nestedSelect)) []).clauses,
      ∀ item, part.entered = some item → 1 + item.height ≤ depthLimit := by
    simp [Statement.clauses, whereParts, Part.entered, Item.height_eq (.expr _), levels,
      Part.levels, Item.parts, Expr.parts, height_nestedSelect, depthLimit]
  exact ⟨fits, (walk_eq_preorder.1 nestedSelect 95 fits).1, by decide,
    walk_eq_preorder.2 _ rfl clauses⟩

end QueryLint.Sql
