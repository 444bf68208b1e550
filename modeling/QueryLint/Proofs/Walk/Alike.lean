import Mathlib.Data.List.Forall2
import Mathlib.Data.List.Zip
import QueryLint.Proofs.Walk.Outline

/-!
Trees that differ only beyond the depth limit. Two items are alike at a depth if a walk that enters
them there finds the same outline, and what they lead to is alike one level deeper; beyond the limit
any two items are alike.

Main statement: what a walk lists is the same for alike trees, as far as the signs of its nodes go.
The conditions of `WHERE` clauses are listed whole, also where they are too deep to be entered; what
is read off them is the same as long as it is the same for the alike conditions that the walk meets.
-/

namespace QueryLint.Sql

variable {limit depth : Nat}

/-- Two items that differ at most in what is entered at a depth beyond the limit. -/
inductive Item.Alike (limit : Nat) : Nat → Item → Item → Prop
  | beyond {depth : Nat} {first second : Item} (deep : limit < depth) :
      Item.Alike limit depth first second
  | within {depth : Nat} {first second : Item} (same : first.outline = second.outline)
      (inner : ∀ pair ∈ first.parts.zip second.parts, ∀ item other,
        pair.1.entered = some item → pair.2.entered = some other →
          Item.Alike limit (depth + 1) item other) :
      Item.Alike limit depth first second

/-- Two parts met at one depth: nodes of one sign, or alike items. -/
inductive Part.Alike (limit depth : Nat) : Part → Part → Prop
  | landmark {first second : Landmark} (same : first.val.sign = second.val.sign) :
      Part.Alike limit depth (.landmark first) (.landmark second)
  | item {first second : Item} (alike : Item.Alike limit depth first second) :
      Part.Alike limit depth (.item first) (.item second)
  | condition {first second : Expr} (alike : Item.Alike limit depth (.expr first) (.expr second)) :
      Part.Alike limit depth (.condition first) (.condition second)

/-- Parts that are alike one by one. -/
abbrev PartsAlike (limit depth : Nat) : List Part → List Part → Prop :=
  List.Forall₂ (Part.Alike limit depth)

theorem Landmark.sign_ne_predicate (place : Landmark) : place.val.sign ≠ .predicate := by
  obtain ⟨node, plain⟩ := place
  cases node with
  | predicate condition => cases plain
  | _ => simp [Node.sign]

theorem Part.alike_of_sign (first second : Part) (same : first.sign = second.sign)
    (inner : ∀ item other, first.entered = some item → second.entered = some other →
      Item.Alike limit depth item other) : Part.Alike limit depth first second := by
  cases first with
  | landmark place =>
    cases second with
    | landmark other => exact .landmark (Option.some.inj same)
    | item other => cases same
    | condition other => exact absurd (Option.some.inj same) place.sign_ne_predicate
  | item item =>
    cases second with
    | item other => exact .item (inner item other rfl rfl)
    | _ => cases same
  | condition condition =>
    cases second with
    | landmark other => exact absurd (Option.some.inj same).symm other.sign_ne_predicate
    | item other => cases same
    | condition other => exact .condition (inner (.expr condition) (.expr other) rfl rfl)

theorem partsAlike_of_signs (first second : List Part) (same : signs first = signs second)
    (inner : ∀ pair ∈ first.zip second, ∀ item other, pair.1.entered = some item →
      pair.2.entered = some other → Item.Alike limit depth item other) :
    PartsAlike limit depth first second := by
  induction first generalizing second with
  | nil =>
    cases second with
    | nil => exact .nil
    | cons part rest => cases same
  | cons part rest ih =>
    cases second with
    | nil => cases same
    | cons other others =>
      obtain ⟨head, tail⟩ := List.cons.inj same
      have here := Part.alike_of_sign part other head (inner (part, other) List.mem_cons_self)
      have there := ih others tail fun pair member => inner pair (List.mem_cons_of_mem _ member)
      exact .cons here there

/-- What is met within the limit shows its outline and its parts. -/
theorem Item.Alike.shown {first second : Item} (alike : Item.Alike limit depth first second)
    (inside : depth ≤ limit) :
    first.outline = second.outline ∧ PartsAlike limit (depth + 1) first.parts second.parts := by
  cases alike with
  | beyond deep => exact absurd inside (Nat.not_le.mpr deep)
  | within same inner =>
    have signed : signs first.parts = signs second.parts := by
      rw [← first.signs_outline, same, second.signs_outline]
    exact ⟨same, partsAlike_of_signs _ _ signed inner⟩

theorem Part.Alike.entered {first second : Part} (alike : Part.Alike limit depth first second)
    {item other : Item} (here : first.entered = some item) (there : second.entered = some other) :
    Item.Alike limit depth item other := by
  cases alike with
  | landmark same => cases here
  | item inner =>
    cases here
    cases there
    exact inner
  | condition inner =>
    cases here
    cases there
    exact inner

/-- Items of one outline with alike parts are alike. -/
theorem Item.Alike.of_parts {first second : Item} (same : first.outline = second.outline)
    (parts : PartsAlike limit (depth + 1) first.parts second.parts) :
    Item.Alike limit depth first second := by
  apply Item.Alike.within same
  intro pair member item other here there
  have alike : Part.Alike limit (depth + 1) pair.1 pair.2 := List.forall₂_zip parts member
  exact alike.entered here there

theorem PartsAlike.of_append {first first' second second' : List Part}
    (alike : PartsAlike limit depth (first ++ first') (second ++ second'))
    (same : signs first = signs second) :
    PartsAlike limit depth first second ∧ PartsAlike limit depth first' second' := by
  have lengths : first.length = second.length := by simpa [signs] using congrArg List.length same
  have front := List.forall₂_take_append _ second second' alike
  have back := List.forall₂_drop_append _ second second' alike
  rw [← lengths, List.take_left] at front
  rw [← lengths, List.drop_left] at back
  exact ⟨front, back⟩

/-- Alike queries have alike `WITH` clauses, and are alike without them. -/
theorem Query.alike_parts {first second : Query}
    (alike : Item.Alike limit depth (.query first) (.query second)) (inside : depth ≤ limit) :
    PartsAlike limit (depth + 1) (withParts first.withClause) (withParts second.withClause) ∧
      PartsAlike limit (depth + 1) first.bodyParts second.bodyParts := by
  obtain ⟨same, parts⟩ := alike.shown inside
  have outlines : first.outline = second.outline := Item.query.inj same
  have clauses : first.withClause.map (·.map Cte.outline) =
      second.withClause.map (·.map Cte.outline) := congrArg Query.withClause outlines
  apply parts.of_append
  rw [← signs_with, clauses, signs_with]

theorem Query.alike_body {first second : Query}
    (alike : Item.Alike limit depth (.query first) (.query second)) (inside : depth ≤ limit) :
    Item.Alike limit (depth + 1) (.body first.body) (.body second.body) := by
  cases (Query.alike_parts alike inside).2 with
  | cons body keys =>
    cases body with
    | item alike => exact alike

theorem Select.alike_tables {first second : Select} (same : first.outline = second.outline)
    (alike : PartsAlike limit depth first.parts second.parts) :
    PartsAlike limit depth (first.tables.flatMap TableRef.parts)
      (second.tables.flatMap TableRef.parts) := by
  have items : first.projection.map SelectItem.outline =
      second.projection.map SelectItem.outline := congrArg Select.projection same
  have tables : first.tables.map TableRef.outline =
      second.tables.map TableRef.outline := congrArg Select.tables same
  simp only [Select.parts, List.append_assoc] at alike
  cases alike with
  | cons block held =>
    have later := PartsAlike.of_append held (by rw [← signs_projection, items, signs_projection])
    exact (PartsAlike.of_append later.2 (by rw [← signs_tables, tables, signs_tables])).1

/-- An item is like itself, whatever the limit. -/
theorem Item.Alike.refl (item : Item) (depth : Nat) : Item.Alike limit depth item item := by
  induction item using Item.walkInduction generalizing depth with
  | step item ih =>
    apply Item.Alike.within rfl
    intro pair member inner other entered entered'
    rw [List.zip_eq_zipWith, List.zipWith_self] at member
    obtain ⟨part, held, rfl⟩ := List.mem_map.mp member
    cases entered.symm.trans entered'
    exact ih part held inner entered (depth + 1)

theorem Item.Alike.symm {first second : Item} (alike : Item.Alike limit depth first second) :
    Item.Alike limit depth second first := by
  induction alike with
  | beyond deep => exact .beyond deep
  | within same inner ih =>
    apply Item.Alike.within same.symm
    intro pair member item other entered entered'
    rw [← List.zip_swap] at member
    obtain ⟨swapped, present, rfl⟩ := List.mem_map.mp member
    exact ih swapped present other item entered' entered

section Operands

variable {second : Expr}

theorem Item.Alike.unary {form : UnaryForm} {operand : Expr} {aside : List Expr}
    (alike : Item.Alike limit depth (.expr (.unary form operand aside)) (.expr second))
    (inside : depth ≤ limit) :
    ∃ operand' aside', second = .unary form operand' aside' ∧
      Item.Alike limit (depth + 1) (.expr operand) (.expr operand') := by
  obtain ⟨same, parts⟩ := alike.shown inside
  cases second with
  | unary form' operand' aside' =>
    obtain ⟨rfl, -⟩ := Expr.unary.inj (Item.expr.inj same)
    obtain _ | ⟨head, -⟩ := parts
    cases head with
    | item operands => exact ⟨operand', aside', rfl, operands⟩
  | _ => cases Item.expr.inj same

theorem Item.Alike.binary {form : BinaryForm} {left right : Expr}
    (alike : Item.Alike limit depth (.expr (.binary form left right)) (.expr second))
    (inside : depth ≤ limit) :
    ∃ left' right', second = .binary form left' right' ∧
      Item.Alike limit (depth + 1) (.expr left) (.expr left') ∧
      Item.Alike limit (depth + 1) (.expr right) (.expr right') := by
  obtain ⟨same, parts⟩ := alike.shown inside
  cases second with
  | binary form' left' right' =>
    obtain ⟨rfl, -⟩ := Expr.binary.inj (Item.expr.inj same)
    obtain _ | ⟨head, _ | ⟨last, -⟩⟩ := parts
    cases head with
    | item lefts =>
      cases last with
      | item rights => exact ⟨left', right', rfl, lefts, rights⟩
  | _ => cases Item.expr.inj same

theorem Item.Alike.inSubquery {operand : Expr} {query : Query}
    (alike : Item.Alike limit depth (.expr (.inSubquery operand query)) (.expr second))
    (inside : depth ≤ limit) :
    ∃ operand' query', second = .inSubquery operand' query' ∧
      Item.Alike limit (depth + 1) (.query query) (.query query') := by
  obtain ⟨same, parts⟩ := alike.shown inside
  cases second with
  | inSubquery operand' query' =>
    obtain _ | ⟨-, _ | ⟨last, -⟩⟩ := parts
    cases last with
    | item queries => exact ⟨operand', query', rfl, queries⟩
  | _ => cases Item.expr.inj same

end Operands

/-- The conditions that a walk lists, each with the depth at which it is met: that of the parts that
hold it, whether or not this is beyond the limit. -/
inductive Meets (limit : Nat) : Nat → List Part → Nat → Expr → Prop
  | here {depth : Nat} {parts : List Part} {condition : Expr}
      (held : Part.condition condition ∈ parts) : Meets limit depth parts depth condition
  | inside {depth met : Nat} {parts : List Part} {part : Part} {item : Item} {condition : Expr}
      (held : part ∈ parts) (entered : part.entered = some item) (reached : depth ≤ limit)
      (deeper : Meets limit (depth + 1) item.parts met condition) :
      Meets limit depth parts met condition

section Conditions

variable {met : Nat} {condition : Expr}

@[simp]
theorem meets_nil : ¬Meets limit depth [] met condition := by
  intro meets
  cases meets with
  | here held => cases held
  | inside held => cases held

theorem meets_cons (part : Part) (rest : List Part) :
    Meets limit depth (part :: rest) met condition ↔
      (part = .condition condition ∧ met = depth) ∨
      (depth ≤ limit ∧ ∃ item, part.entered = some item ∧
        Meets limit (depth + 1) item.parts met condition) ∨
      Meets limit depth rest met condition := by
  constructor
  · intro meets
    cases meets with
    | here held =>
      rcases List.mem_cons.mp held with same | later
      · exact .inl ⟨same.symm, rfl⟩
      · exact .inr (.inr (.here later))
    | inside held entered reached deeper =>
      rcases List.mem_cons.mp held with rfl | later
      · exact .inr (.inl ⟨reached, _, entered, deeper⟩)
      · exact .inr (.inr (.inside later entered reached deeper))
  · rintro (⟨rfl, rfl⟩ | ⟨reached, item, entered, deeper⟩ | later)
    · exact .here List.mem_cons_self
    · exact .inside List.mem_cons_self entered reached deeper
    · cases later with
      | here held => exact .here (List.mem_cons_of_mem _ held)
      | inside held entered reached deeper =>
        exact .inside (List.mem_cons_of_mem _ held) entered reached deeper

@[simp]
theorem meets_landmark (place : Landmark) (rest : List Part) :
    Meets limit depth (.landmark place :: rest) met condition ↔
      Meets limit depth rest met condition := by
  simp [meets_cons, Part.entered]

@[simp]
theorem meets_item (item : Item) (rest : List Part) :
    Meets limit depth (.item item :: rest) met condition ↔
      (depth ≤ limit ∧ Meets limit (depth + 1) item.parts met condition) ∨
        Meets limit depth rest met condition := by
  simp [meets_cons, Part.entered]

@[simp]
theorem meets_condition (tested : Expr) (rest : List Part) :
    Meets limit depth (.condition tested :: rest) met condition ↔
      (condition = tested ∧ met = depth) ∨
      (depth ≤ limit ∧ Meets limit (depth + 1) tested.parts met condition) ∨
        Meets limit depth rest met condition := by
  simp [meets_cons, Part.entered, Item.parts, eq_comm]

end Conditions

/-- A reading of nodes that sees no more of a node than its sign, unless it is a condition. -/
def ReadsSigns {β : Type} (read : Node → List β) : Prop :=
  ∀ first second : Landmark, first.val.sign = second.val.sign → read first.val = read second.val

/-- A reading that is the same for all conditions that are alike where the walk meets them. -/
def ReadsAlike {β : Type} (limit : Nat) (read : Node → List β) (depth : Nat) (parts : List Part) :
    Prop :=
  ∀ met condition other, Meets limit depth parts met condition →
    Item.Alike limit met (.expr condition) (.expr other) →
      read (.predicate condition) = read (.predicate other)

section Reading

variable {β : Type} {read : Node → List β}

theorem ReadsAlike.below {parts : List Part} (reads : ReadsAlike limit read depth parts)
    (inside : depth ≤ limit) (part : Part) (held : part ∈ parts) (item : Item)
    (entered : part.entered = some item) : ReadsAlike limit read (depth + 1) item.parts :=
  fun met condition other meets =>
    reads met condition other (.inside held entered inside meets)

theorem read_walkParts (signed : ReadsSigns read) {first second : List Part}
    (alike : PartsAlike limit depth first second) (reads : ReadsAlike limit read depth first)
    (inner : ∀ part ∈ first, ∀ item other, part.entered = some item →
      Item.Alike limit depth item other →
        (item.walk limit depth).flatMap read = (other.walk limit depth).flatMap read) :
    (walkParts limit depth first).flatMap read = (walkParts limit depth second).flatMap read := by
  induction alike with
  | nil => rfl
  | @cons part other rest others here there ih =>
    have later : ReadsAlike limit read depth rest := fun met condition other meets =>
      reads met condition other ((meets_cons part rest).mpr (.inr (.inr meets)))
    have tail := ih later fun part held => inner part (List.mem_cons_of_mem _ held)
    rw [walkParts_cons, walkParts_cons, List.flatMap_append, List.flatMap_append, tail]
    congr 1
    cases here with
    | landmark same => simpa using signed _ _ same
    | item alike => exact inner _ List.mem_cons_self _ _ rfl alike
    | condition alike =>
      have listed := reads depth _ _ (.here List.mem_cons_self) alike
      have entered := inner _ List.mem_cons_self _ _ rfl alike
      rw [Part.walk_condition, Part.walk_condition, List.flatMap_cons, List.flatMap_cons, listed]
      exact congrArg _ entered

/-- The walks of alike items read the same. -/
theorem Item.Alike.read_walk (signed : ReadsSigns read) {first second : Item}
    (alike : Item.Alike limit depth first second)
    (reads : depth ≤ limit → ReadsAlike limit read (depth + 1) first.parts) :
    (first.walk limit depth).flatMap read = (second.walk limit depth).flatMap read := by
  induction first using Item.walkInduction generalizing second depth with
  | step first ih =>
    by_cases inside : depth ≤ limit
    · rw [Item.walk_eq, Item.walk_eq, within_of_le inside, within_of_le inside]
      apply read_walkParts signed (alike.shown inside).2 (reads inside)
      intro part held item other entered alike'
      apply ih part held item entered alike'
      intro inside'
      exact (reads inside).below inside' part held item entered
    · rw [Item.walk_eq, Item.walk_eq, within_of_lt (Nat.lt_of_not_le inside),
        within_of_lt (Nat.lt_of_not_le inside)]

theorem PartsAlike.read_walk (signed : ReadsSigns read) {first second : List Part}
    (alike : PartsAlike limit depth first second) (reads : ReadsAlike limit read depth first) :
    (walkParts limit depth first).flatMap read = (walkParts limit depth second).flatMap read := by
  apply read_walkParts signed alike reads
  intro part held item other entered alike'
  apply alike'.read_walk signed
  intro inside
  exact reads.below inside part held item entered

/-- The walks of alike parts list nodes of the same signs. -/
theorem PartsAlike.signs_walk {first second : List Part}
    (alike : PartsAlike limit depth first second) :
    (walkParts limit depth first).map Node.sign = (walkParts limit depth second).map Node.sign := by
  rw [List.map_eq_flatMap, List.map_eq_flatMap]
  apply alike.read_walk
  · intro first second same
    exact congrArg (fun sign => [sign]) same
  · intro met condition other _ _
    rfl

end Reading

/-- The depth at which the parts of a statement are met. -/
def Statement.startDepth (statement : Statement) : Nat :=
  if statement.query?.isSome then 0 else 1

/-- Two statements that differ at most in what a walk enters at a depth beyond the limit. -/
structure Statement.Alike (limit : Nat) (first second : Statement) : Prop where
  same : first.outline = second.outline
  inner : ∀ pair ∈ first.parts.zip second.parts, ∀ item other, pair.1.entered = some item →
    pair.2.entered = some other → Item.Alike limit first.startDepth item other

theorem Statement.walk_eq (limit : Nat) (statement : Statement) :
    statement.walk limit = walkParts limit statement.startDepth statement.parts := by
  cases found : statement.query? with
  | none =>
    rw [Statement.walk_clauses limit statement found]
    simp [Statement.parts, Statement.startDepth, found]
  | some carried =>
    rw [Statement.walk_carried limit statement carried found]
    simp [Statement.parts, Statement.startDepth, found, Item.walk]

namespace Statement.Alike

variable {first second : Statement}

theorem parts (alike : Statement.Alike limit first second) :
    PartsAlike limit first.startDepth first.parts second.parts := by
  apply partsAlike_of_signs
  · rw [← first.signs_outline, alike.same, second.signs_outline]
  · exact alike.inner

theorem isSome_query? (alike : Statement.Alike limit first second) :
    first.query?.isSome = second.query?.isSome := by
  rw [← first.isSome_query?_outline, alike.same, second.isSome_query?_outline]

theorem startDepth (alike : Statement.Alike limit first second) :
    second.startDepth = first.startDepth := by
  rw [Statement.startDepth, Statement.startDepth, alike.isSome_query?]

/-- The walks of alike statements list nodes of the same signs. -/
theorem signs_walk (alike : Statement.Alike limit first second) :
    (first.walk limit).map Node.sign = (second.walk limit).map Node.sign := by
  rw [Statement.walk_eq, Statement.walk_eq, alike.startDepth]
  exact alike.parts.signs_walk

/-- The walks of alike statements read the same. -/
theorem read_walk {β : Type} {read : Node → List β} (signed : ReadsSigns read)
    (alike : Statement.Alike limit first second)
    (reads : ReadsAlike limit read first.startDepth first.parts) :
    (first.walk limit).flatMap read = (second.walk limit).flatMap read := by
  rw [Statement.walk_eq, Statement.walk_eq, alike.startDepth]
  exact alike.parts.read_walk signed reads

end Statement.Alike

end QueryLint.Sql
