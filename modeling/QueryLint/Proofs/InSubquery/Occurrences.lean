import Mathlib.Algebra.GroupWithZero.Nat
import QueryLint.Proofs.Walk.Preorder
import QueryLint.Rule.InSubquery

/-!
Membership tests counted in one pass over the tree.

Each expression of a tree stands at the end of a trail: the expressions around it up to the root of
the nearest `WHERE` clause that encloses it. A membership test offends if the whole trail passes on
its truth and its subquery is a plain `SELECT`. Main statement: within the depth limit there is one
message for each test that offends, and no other.

The rule itself follows each condition on its own and does not enter subqueries. A condition inside
a subquery lies within the outer condition too; what keeps it from being counted twice is that no
expression that holds a query passes on its truth.
-/

namespace QueryLint.Rule.InSubquery

open Sql

/-- An expression where it stands in a tree. The expressions around it are listed from the inside
out, up to the root of the nearest `WHERE` clause; outside any `WHERE` clause there is no trail. -/
structure Occurrence where
  trail : Option (List Expr)
  expr : Expr

/-- The trail of what an item leads to. -/
def trailBelow (trail : Option (List Expr)) : Item → Option (List Expr)
  | .expr around => trail.map (around :: ·)
  | _ => trail

/-- A trail starts afresh at the condition of a `WHERE` clause. -/
def trailAt (trail : Option (List Expr)) : Part → Option (List Expr)
  | .condition _ => some []
  | _ => trail

/-- The item itself, if it is an expression. -/
def occurrenceOf (trail : Option (List Expr)) : Item → List Occurrence
  | .expr expr => [⟨trail, expr⟩]
  | _ => []

/-- All expressions of an item, each where it stands. -/
def occurrences (trail : Option (List Expr)) (item : Item) : List Occurrence :=
  occurrenceOf trail item ++
    item.parts.attach.flatMap fun ⟨part, _⟩ =>
      match _entered : part.entered with
      | some inner => occurrences (trailAt (trailBelow trail item) part) inner
      | none => []
termination_by item.size
decreasing_by exact Item.size_lt item part ‹_› inner _entered

def partOccurrences (trail : Option (List Expr)) (part : Part) : List Occurrence :=
  part.entered.elim [] (occurrences (trailAt trail part))

theorem occurrences_eq (trail : Option (List Expr)) (item : Item) :
    occurrences trail item =
      occurrenceOf trail item ++ item.parts.flatMap (partOccurrences (trailBelow trail item)) := by
  rw [occurrences, List.flatMap_subtype (g := partOccurrences (trailBelow trail item)),
    List.unattach_attach]
  intro part member
  simp only [partOccurrences]
  split
  next inner entered => rw [entered, Option.elim_some]
  next absent => rw [absent, Option.elim_none]

/-- The expressions of a statement, each where it stands: those of the query that it carries, or those
of its clauses. -/
def statementOccurrences : Statement → List Occurrence
  | .query carried => occurrences none (.query carried)
  | .insert source _ => source.elim [] fun carried => occurrences none (.query carried)
  | .createView carried => occurrences none (.query carried)
  | .createTable carried => carried.elim [] fun carried => occurrences none (.query carried)
  | statement => statement.clauses.flatMap (partOccurrences none)

theorem partOccurrences_item (trail : Option (List Expr)) (item : Item) :
    partOccurrences trail (.item item) = occurrences trail item := rfl

theorem statementOccurrences_eq (statement : Statement) :
    statementOccurrences statement = statement.parts.flatMap (partOccurrences none) := by
  cases statement with
  | insert source aside =>
    cases source <;> simp [statementOccurrences, Statement.parts, Statement.query?,
      Statement.clauses, partOccurrences_item]
  | createTable carried =>
    cases carried <;> simp [statementOccurrences, Statement.parts, Statement.query?,
      Statement.clauses, partOccurrences_item]
  | _ => simp [statementOccurrences, Statement.parts, Statement.query?, partOccurrences_item]

/-- A body is a `SELECT` under any number of parentheses. -/
inductive Unwraps : Body → Select → Prop
  | select (block : Select) : Unwraps (.select block) block
  | nested (query : Query) (block : Select) (inner : Unwraps query.body block) :
      Unwraps (.nested query) block

/-- A query comes down to a `SELECT` with neither `DISTINCT` nor `GROUP BY`. -/
def Unaggregated (query : Query) : Prop :=
  ∃ block, Unwraps query.body block ∧ block.distinct = .absent ∧ block.groupBy = .keys []

/-- The forms around one operand that pass on its truth. -/
def truthForms : List UnaryForm :=
  [.operator, .parentheses, .isTrue, .isNotTrue, .isFalse, .isNotFalse, .isUnknown, .isNotUnknown]

def passesTruth : Expr → Bool
  | .binary form _ _ => form = .operator
  | .unary form _ _ => form ∈ truthForms
  | _ => false

/-- The subquery of a membership test. -/
def tested? : Expr → Option Query
  | .inSubquery _ query => some query
  | _ => none

/-- A `WHERE` clause encloses the place, and all between the two passes on its truth. -/
def Live (trail : Option (List Expr)) : Prop :=
  ∃ around ∈ trail, ∀ expr ∈ around, passesTruth expr

/-- A membership test that decides on a `WHERE` clause and reads an unaggregated subquery. -/
def Offends (occurrence : Occurrence) : Prop :=
  Live occurrence.trail ∧ ∃ query ∈ tested? occurrence.expr, Unaggregated query

theorem isPlain_iff (block : Select) :
    isPlain block = true ↔ block.distinct = .absent ∧ block.groupBy = .keys [] := by
  rw [isPlain]
  split
  next absent keys => simp [absent, keys]
  next other =>
    constructor
    · intro plain
      cases plain
    · rintro ⟨absent, keys⟩
      exact absurd keys (other absent)

theorem isUnaggregatedBody_iff (body : Body) :
    isUnaggregatedBody body = true ↔
      ∃ block, Unwraps body block ∧ block.distinct = .absent ∧ block.groupBy = .keys [] := by
  match body with
  | .select block =>
    rw [isUnaggregatedBody, isPlain_iff]
    constructor
    · intro plain
      exact ⟨block, .select block, plain⟩
    · rintro ⟨other, unwrapped, plain⟩
      cases unwrapped
      exact plain
  | .nested ⟨withClause, inner, orderBy, aside⟩ =>
    rw [isUnaggregatedBody, isUnaggregated, isUnaggregatedBody_iff inner]
    constructor
    · rintro ⟨block, unwrapped, plain⟩
      exact ⟨block, .nested ⟨withClause, inner, orderBy, aside⟩ block unwrapped, plain⟩
    · rintro ⟨block, unwrapped, plain⟩
      cases unwrapped with
      | nested query block deeper => exact ⟨block, deeper, plain⟩
  | .setOperation left right => exact ⟨by simp [isUnaggregatedBody], by rintro ⟨_, ⟨⟩, _⟩⟩
  | .values rows => exact ⟨by simp [isUnaggregatedBody], by rintro ⟨_, ⟨⟩, _⟩⟩
  | .other aside => exact ⟨by simp [isUnaggregatedBody], by rintro ⟨_, ⟨⟩, _⟩⟩

theorem isUnaggregated_iff (query : Query) : isUnaggregated query = true ↔ Unaggregated query := by
  cases query
  exact isUnaggregatedBody_iff _

instance (query : Query) : Decidable (Unaggregated query) :=
  decidable_of_iff _ (isUnaggregated_iff query)

instance (trail : Option (List Expr)) : Decidable (Live trail) :=
  inferInstanceAs (Decidable (∃ around ∈ trail, ∀ expr ∈ around, passesTruth expr))

instance (occurrence : Occurrence) : Decidable (Offends occurrence) :=
  inferInstanceAs (Decidable (Live occurrence.trail ∧
    ∃ query ∈ tested? occurrence.expr, Unaggregated query))

/-- The offending tests that a condition comes down to, whatever the depth. -/
def offencesIn : Expr → Nat
  | .inSubquery _ query => if isUnaggregated query then 1 else 0
  | .binary .operator left right => offencesIn left + offencesIn right
  | .unary form operand _ => if isConnective form then offencesIn operand else 0
  | _ => 0

theorem height_operand (expr operand : Expr) (held : Part.item (.expr operand) ∈ expr.parts) :
    (Item.expr operand).height < (Item.expr expr).height := by
  rw [Item.height_eq (.expr expr)]
  exact height_lt_levels expr.parts (.item (.expr operand)) held (.expr operand) rfl

/-- The rule counts depth afresh from each condition, which is never more than the walk has counted
there. -/
theorem offences_eq (limit : Nat) (expr : Expr) (depth : Nat)
    (fits : depth + (Item.expr expr).height ≤ limit) :
    offences limit expr depth = offencesIn expr := by
  have inside : ¬limit < depth := by omega
  fun_induction offencesIn expr generalizing depth with
  | case1 operand query plain => rw [offences, if_neg inside, if_pos plain]
  | case2 operand query plain => rw [offences, if_neg inside, if_neg plain]
  | case3 left right ihLeft ihRight =>
    have lower := height_operand (.binary .operator left right) left (by simp [Expr.parts])
    have lower' := height_operand (.binary .operator left right) right (by simp [Expr.parts])
    rw [offences, if_neg inside, ihLeft (depth + 1) (by omega) (by omega),
      ihRight (depth + 1) (by omega) (by omega)]
  | case4 form operand aside connective ih =>
    have lower := height_operand (.unary form operand aside) operand (by simp [Expr.parts])
    rw [offences, if_neg inside, if_pos connective, ih (depth + 1) (by omega) (by omega)]
  | case5 form operand aside connective => rw [offences, if_neg inside, if_neg connective]
  | case6 expr membership connective unary =>
    rw [offences]
    · exact membership
    · exact connective
    · exact unary

/-- The offending tests in the conditions among some nodes. -/
def nodeOffences : Node → Nat
  | .predicate condition => offencesIn condition
  | _ => 0

def listedOffences (nodes : List Node) : Nat := (nodes.map nodeOffences).sum

theorem listedOffences_append (first second : List Node) :
    listedOffences (first ++ second) = listedOffences first + listedOffences second := by
  rw [listedOffences, List.map_append, List.sum_append]
  rfl

def offenders (found : List Occurrence) : Nat := found.countP fun occurrence => Offends occurrence

theorem offenders_append (first second : List Occurrence) :
    offenders (first ++ second) = offenders first + offenders second := List.countP_append

theorem live_start : Live (some []) := ⟨[], rfl, by simp⟩

theorem live_below (trail : Option (List Expr)) (expr : Expr) :
    Live (trailBelow trail (.expr expr)) ↔ passesTruth expr ∧ Live trail := by
  cases trail with
  | none => simp [Live, trailBelow]
  | some around => simp [Live, trailBelow]

theorem isConnective_iff (form : UnaryForm) : isConnective form = true ↔ form ∈ truthForms := by
  cases form <;> decide

theorem offenders_singleton (trail : Option (List Expr)) (expr : Expr) :
    offenders [⟨trail, expr⟩] =
      if Live trail ∧ ∃ query ∈ tested? expr, Unaggregated query then 1 else 0 := by
  simp [offenders, Offends, List.countP_singleton]

/-- An expression that does not pass on its truth counts for itself alone. -/
theorem offencesIn_of_blocking (trail : Option (List Expr)) (live : Live trail) (expr : Expr)
    (blocks : ¬passesTruth expr) : offencesIn expr = offenders [⟨trail, expr⟩] := by
  rw [offenders_singleton]
  cases expr with
  | inSubquery operand query => simp [offencesIn, tested?, live, ← isUnaggregated_iff]
  | binary form left right =>
    have other : form ≠ .operator := by simpa [passesTruth] using blocks
    simp [offencesIn, tested?, other]
  | unary form operand aside =>
    have other : ¬isConnective form := by
      rw [isConnective_iff]
      simpa [passesTruth] using blocks
    simp [offencesIn, tested?, other]
  | _ => simp [offencesIn, tested?]

theorem operands_of_passesTruth (expr : Expr) (passes : passesTruth expr = true) :
    ∃ operands, expr.parts = exprParts operands ∧
      offencesIn expr = (operands.map offencesIn).sum ∧ tested? expr = none := by
  cases expr with
  | binary form left right =>
    have operator : form = .operator := by simpa [passesTruth] using passes
    subst operator
    exact ⟨[left, right], rfl, by simp [offencesIn], rfl⟩
  | unary form operand aside =>
    have connective : isConnective form := by
      rw [isConnective_iff]
      simpa [passesTruth] using passes
    exact ⟨[operand], rfl, by simp [offencesIn, connective], rfl⟩
  | _ => cases passes

/-- The offending tests among the expressions of an item are those in the conditions that it lists,
and, if it is itself an expression on a live trail, those that it comes down to. -/
structure CountsOnce (item : Item) : Prop where
  apart : ∀ trail, ¬Live trail →
    offenders (occurrences trail item) = listedOffences item.preorder
  along : ∀ trail expr, item = .expr expr → Live trail →
    offenders (occurrences trail item) = offencesIn expr + listedOffences item.preorder

theorem offenders_parts (parts : List Part)
    (inner : ∀ part ∈ parts, ∀ item, part.entered = some item → CountsOnce item)
    (trail : Option (List Expr)) (dead : ¬Live trail) :
    offenders (parts.flatMap (partOccurrences trail)) = listedOffences (preorderParts parts) := by
  induction parts with
  | nil => rfl
  | cons part rest ih =>
    rw [List.flatMap_cons, offenders_append, preorderParts, List.flatMap_cons,
      listedOffences_append, ih (fun other member => inner other (List.mem_cons_of_mem _ member)),
      preorderParts]
    congr 1
    cases part with
    | landmark place =>
      obtain ⟨node, plain⟩ := place
      cases node with
      | predicate condition => cases plain
      | _ => rfl
    | item item =>
      exact (inner (.item item) List.mem_cons_self item rfl).apart trail dead
    | condition condition =>
      have start := (inner (.condition condition) List.mem_cons_self (.expr condition) rfl).along
        (some []) condition rfl live_start
      simpa [partOccurrences, trailAt, Part.preorder, Part.entered, Part.listed, listedOffences,
        nodeOffences] using start

/-- Connectives hand the count on to their operands. -/
theorem offenders_operands (operands : List Expr)
    (inner : ∀ operand ∈ operands, CountsOnce (.expr operand)) (trail : Option (List Expr))
    (live : Live trail) :
    offenders ((exprParts operands).flatMap (partOccurrences trail)) =
      (operands.map offencesIn).sum + listedOffences (preorderParts (exprParts operands)) := by
  induction operands with
  | nil => rfl
  | cons operand rest ih =>
    have first := (inner operand List.mem_cons_self).along trail operand rfl live
    have others := ih fun other member => inner other (List.mem_cons_of_mem _ member)
    have here : partOccurrences trail (.item (.expr operand)) =
        occurrences trail (.expr operand) := rfl
    have listed : preorderParts (exprParts (operand :: rest)) =
        (Item.expr operand).preorder ++ preorderParts (exprParts rest) := rfl
    rw [exprParts_cons, List.flatMap_cons, offenders_append, here, first, others,
      ← exprParts_cons, listed, listedOffences_append, List.map_cons, List.sum_cons]
    omega

theorem countsOnce (item : Item) : CountsOnce item := by
  induction item using Item.walkInduction with
  | step item ih =>
    have below (trail : Option (List Expr)) (dead : ¬Live (trailBelow trail item)) :
        offenders (item.parts.flatMap (partOccurrences (trailBelow trail item))) =
          listedOffences item.preorder := by
      rw [offenders_parts item.parts ih _ dead, Item.preorder_eq]
    constructor
    · intro trail dead
      rw [occurrences_eq, offenders_append]
      cases item with
      | expr expr =>
        have blocked : ¬Live (trailBelow trail (.expr expr)) := fun live =>
          dead ((live_below trail expr).mp live).2
        rw [below trail blocked, occurrenceOf, offenders_singleton, if_neg (fun found => dead found.1),
          Nat.zero_add]
      | _ => exact (Nat.zero_add _).trans (below trail dead)
    · intro trail expr same live
      subst same
      rw [occurrences_eq, offenders_append, occurrenceOf]
      by_cases passes : passesTruth expr = true
      · have onward : Live (trailBelow trail (.expr expr)) :=
          (live_below trail expr).mpr ⟨passes, live⟩
        obtain ⟨operands, parts, sum, untested⟩ := operands_of_passesTruth expr passes
        have held : (Item.expr expr).parts = exprParts operands := parts
        have inner : ∀ operand ∈ operands, CountsOnce (.expr operand) := by
          intro operand member
          apply ih (.item (.expr operand)) _ (.expr operand) rfl
          rw [held]
          exact List.mem_map_of_mem member
        rw [Item.preorder_eq, held, offenders_operands operands inner _ onward, sum,
          offenders_singleton, untested]
        simp
      · have blocked : ¬Live (trailBelow trail (.expr expr)) := fun onward =>
          passes ((live_below trail expr).mp onward).1
        rw [below trail blocked, offencesIn_of_blocking trail live expr passes]

theorem flatMap_nodeMessages (nodes : List Node)
    (whole : ∀ condition, Node.predicate condition ∈ nodes →
      offences depthLimit condition 0 = offencesIn condition) :
    nodes.flatMap nodeMessages = List.replicate (listedOffences nodes) message := by
  induction nodes with
  | nil => rfl
  | cons node rest ih =>
    have others := ih fun condition member => whole condition (List.mem_cons_of_mem _ member)
    have here : nodeMessages node = List.replicate (nodeOffences node) message := by
      cases node with
      | predicate condition => rw [nodeMessages, whole condition List.mem_cons_self, nodeOffences]
      | _ => rfl
    rw [List.flatMap_cons, here, others, ← List.replicate_add]
    rfl

/-- Within the depth limit there is one message for each membership test that offends, and none for
anything else. -/
theorem messages_eq_offences (statement : Statement) (fits : statement.deepest ≤ depthLimit) :
    messages statement =
      List.replicate
        ((statementOccurrences statement).countP fun occurrence => Offends occurrence) message := by
  have whole : ∀ condition, Node.predicate condition ∈ preorderParts statement.parts →
      offences depthLimit condition 0 = offencesIn condition := by
    intro condition member
    have lower := Statement.height_predicate_le statement condition member
    exact offences_eq depthLimit condition 0 (by omega)
  have counted : offenders (statementOccurrences statement) =
      listedOffences (preorderParts statement.parts) := by
    rw [statementOccurrences_eq]
    exact offenders_parts statement.parts (fun _ _ item _ => countsOnce item) none (by simp [Live])
  rw [offenders] at counted
  rw [messages, Statement.walk_preorder depthLimit statement fits,
    flatMap_nodeMessages _ whole, counted]

/-- A test whose subquery has a condition of its own. -/
def testing (inner : Option Expr) : Expr :=
  .inSubquery (.atom "Identifier" []) (selecting [] inner)

/-- Two tests decide on the outer condition and one of them holds a third in the condition of its
subquery; a fourth stands in a tuple and decides on nothing. -/
def nestedCondition : Expr :=
  .binary .operator
    (.unary .operator (.unary .parentheses (testing (some (testing none))) []) [])
    (.binary .operator (testing none) (.row .tuple [testing none] []))

def nestedTests : Statement := .delete [] [] (some nestedCondition) []

def nestedTestsSelected : Statement := .query (selecting [] (some nestedCondition))

theorem messages_eq_offences_nested :
    nestedTests.deepest ≤ depthLimit ∧ messages nestedTests = [message, message, message] ∧
      ((statementOccurrences nestedTests).countP fun occurrence => Offends occurrence) = 3 ∧
      nestedTestsSelected.deepest ≤ depthLimit ∧
      messages nestedTestsSelected = [message, message, message] ∧
      ((statementOccurrences nestedTestsSelected).countP fun occurrence =>
        Offends occurrence) = 3 := by
  have fits : nestedTests.deepest ≤ depthLimit ∧ nestedTestsSelected.deepest ≤ depthLimit := by
    simp [nestedTests, nestedTestsSelected, nestedCondition, testing, selecting,
      Statement.deepest, Statement.query?, Statement.clauses, Item.height_eq, levels, Part.levels,
      Part.entered, Item.parts, Query.parts, Query.bodyParts, withParts, Body.parts, Select.parts,
      TableRef.parts, Factor.parts, whereParts, GroupBy.parts, Expr.parts, depthLimit]
  have three : messages nestedTests = [message, message, message] ∧
      messages nestedTestsSelected = [message, message, message] := by decide +kernel
  have lengths := congrArg List.length (messages_eq_offences nestedTests fits.1)
  have lengths' := congrArg List.length (messages_eq_offences nestedTestsSelected fits.2)
  rw [three.1, List.length_replicate] at lengths
  rw [three.2, List.length_replicate] at lengths'
  exact ⟨fits.1, three.1, lengths.symm, fits.2, three.2, lengths'.symm⟩

end QueryLint.Rule.InSubquery
