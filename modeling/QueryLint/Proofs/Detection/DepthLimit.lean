import QueryLint.Detector
import QueryLint.Proofs.InSubquery.Occurrences
import QueryLint.Proofs.Walk.Alike

/-!
What the detectors see of a statement that goes beyond the depth limit.

Shared tables and calls are read off the signs of the walk, so nothing beyond the limit shows in
them. The rule on membership tests reads each condition that the walk lists on its own, counting
depth from the condition; it can thus go deeper than the walk. Main statement: alike statements have
the same messages from every detector, for membership tests as long as no condition is read further
than the walk may go. Without that the messages can differ, as one pair of statements shows.
-/

namespace QueryLint

open Sql

namespace Rule.RegexpContains

/-- What a call is noticed for is its name. -/
def signMessages : Sign → List String
  | .call name => if name.idents.any isNamed then [message] else []
  | _ => []

theorem nodeMessages_eq_sign (node : Node) : nodeMessages node = signMessages node.sign := by
  cases node <;> rfl

theorem messages_alike {first second : Statement}
    (alike : Statement.Alike depthLimit first second) : messages first = messages second := by
  have signed (statement : Statement) : messages statement =
      ((statement.walk depthLimit).map Node.sign).flatMap signMessages := by
    rw [messages, List.flatMap_map]
    exact List.flatMap_congr fun node _ => nodeMessages_eq_sign node
  rw [signed, signed, alike.signs_walk]

end Rule.RegexpContains

namespace Rule.SharedCte

variable {limit depth : Nat}

def signTable? : Sign → Option ObjectName
  | .table name => some name
  | _ => none

theorem tableNames_eq_signs (nodes : List Node) :
    tableNames nodes = (nodes.map Node.sign).filterMap signTable? := by
  rw [tableNames, List.filterMap_map]
  apply List.filterMap_congr
  intro node _
  cases node <;> rfl

theorem singleTable?_eq_some_iff (query : Query) (name : ObjectName) :
    singleTable? query = some name ↔
      ∃ block aside, query.body = .select block ∧ block.tables = [⟨.table name aside, []⟩] := by
  constructor
  · intro found
    unfold singleTable? at found
    split at found
    next block body =>
      split at found
      next read aside tables =>
        cases found
        exact ⟨block, aside, body, tables⟩
      next => cases found
    next => cases found
  · rintro ⟨block, aside, body, tables⟩
    simp [singleTable?, body, tables]

/-- Of the table that a query reads, the name stands two levels below the query. -/
theorem singleTable?_of_alike {first second : Query}
    (alike : Item.Alike limit depth (.query first) (.query second)) (fits : depth + 2 ≤ limit)
    (name : ObjectName) (found : singleTable? first = some name) :
    singleTable? second = some name := by
  obtain ⟨block, aside, body, tables⟩ := (singleTable?_eq_some_iff first name).mp found
  obtain ⟨same, parts⟩ := (Query.alike_body alike (by omega)).shown (by omega)
  rw [body] at same parts
  cases body' : second.body with
  | select other =>
    rw [body'] at same parts
    have blocks : block.outline = other.outline := Body.select.inj (Item.body.inj same)
    have outlines : other.tables.map TableRef.outline = [⟨.hole, []⟩] := by
      have mapped := congrArg Select.tables blocks
      simpa [Select.outline, tables, TableRef.outline] using mapped.symm
    obtain ⟨⟨relation, joins⟩, read, outline⟩ := List.map_eq_singleton_iff.mp outlines
    have unjoined : joins = [] := List.map_eq_nil_iff.mp (TableRef.mk.inj outline).2
    subst unjoined
    have relations := Select.alike_tables blocks parts
    rw [tables, read] at relations
    cases relations with
    | cons head tail =>
      cases head with
      | item related =>
        have shown := Item.relation.inj (related.shown (by omega)).1
        obtain ⟨aside', named⟩ : ∃ aside', relation = .table name aside' := by
          cases relation <;> simp [Factor.outline] at shown
          rw [shown]
          exact ⟨_, rfl⟩
        exact (singleTable?_eq_some_iff second name).mpr ⟨other, aside', body', named ▸ read⟩
  | _ =>
    rw [body'] at same
    cases Item.body.inj same

theorem singleTable?_alike {first second : Query}
    (alike : Item.Alike limit depth (.query first) (.query second)) (fits : depth + 2 ≤ limit) :
    singleTable? first = singleTable? second := by
  apply Option.ext
  intro name
  exact ⟨singleTable?_of_alike alike fits name, singleTable?_of_alike alike.symm fits name⟩

theorem declare_congr (state : State) (cte other : Cte) (named : cte.name = other.name)
    (read : singleTable? cte.query = singleTable? other.query) :
    state.declare cte = state.declare other := by
  rw [State.declare, State.declare, named, read]

/-- Entries of the same names that are alike leave the same counts and notices. -/
theorem foldl_declare_alike (ctes others : List Cte)
    (named : ctes.map Cte.outline = others.map Cte.outline)
    (alike : List.Forall₂ (fun cte other : Cte =>
      Part.Alike limit depth (.item (.query cte.query)) (.item (.query other.query))) ctes others)
    (fits : depth + 2 ≤ limit) (state : State) :
    ctes.foldl State.declare state = others.foldl State.declare state := by
  induction alike generalizing state with
  | nil => rfl
  | @cons cte other rest others here there ih =>
    obtain ⟨head, tail⟩ := List.cons.inj named
    cases here with
    | item alike =>
      have same : cte.outline.name = other.outline.name := congrArg Cte.name head
      have read := singleTable?_alike alike fits
      rw [List.foldl_cons, List.foldl_cons, declare_congr state cte other same read, ih tail]

theorem tableNames_alike {first second : Query}
    (alike : Item.Alike depthLimit 0 (.query first) (.query second)) :
    tableNames (first.walkBody depthLimit 0) = tableNames (second.walkBody depthLimit 0) := by
  have small : 0 + 1 < wordBound := by decide
  have bodies := (Query.alike_parts alike (Nat.zero_le _)).2
  rw [tableNames_eq_signs, tableNames_eq_signs, Query.walkBody_eq depthLimit 0 first small,
    Query.walkBody_eq depthLimit 0 second small, bodies.signs_walk]

theorem queryNotices_alike {first second : Query}
    (alike : Item.Alike depthLimit 0 (.query first) (.query second)) :
    queryNotices first = queryNotices second := by
  have same : first.outline = second.outline :=
    Item.query.inj (alike.shown (Nat.zero_le _)).1
  have outlines : first.withClause.map (·.map Cte.outline) =
      second.withClause.map (·.map Cte.outline) := congrArg Query.withClause same
  have entries := (Query.alike_parts alike (Nat.zero_le _)).1
  rw [queryNotices, queryNotices, tableNames_alike alike]
  cases declared : first.withClause with
  | none =>
    rw [declared] at outlines
    have absent : second.withClause = none := Option.map_eq_none_iff.mp outlines.symm
    rw [absent]
  | some ctes =>
    rw [declared] at outlines entries
    obtain ⟨others, declared', named⟩ := Option.map_eq_some_iff.mp outlines.symm
    rw [declared', withParts, withParts] at entries
    cases entries with
    | cons clause entries =>
      rw [List.forall₂_map_left_iff, List.forall₂_map_right_iff] at entries
      rw [declared']
      simp only [foldl_declare_alike ctes others named.symm entries (by decide)]

theorem messages_alike {first second : Statement}
    (alike : Statement.Alike depthLimit first second) : messages first = messages second := by
  have parts := alike.parts
  have carried := alike.isSome_query?
  rw [messages, messages, notices, notices]
  cases found : first.query? with
  | none =>
    rw [found] at carried
    have absent : second.query? = none :=
      Option.isNone_iff_eq_none.mp (Option.isSome_eq_false_iff.mp carried.symm)
    rw [absent]
  | some query =>
    rw [found] at carried
    obtain ⟨other, found'⟩ := Option.isSome_iff_exists.mp carried.symm
    simp only [Statement.parts, Statement.startDepth, found, found', Option.isSome_some,
      if_true] at parts
    cases parts with
    | cons head tail =>
      cases head with
      | item queries =>
        rw [found']
        exact congrArg _ (queryNotices_alike queries)

end Rule.SharedCte

namespace Rule.InSubquery

variable {limit depth : Nat}

mutual

/-- How many levels below a query it shows whether the query is unaggregated: one for its body, and
two more for each pair of parentheses. -/
def queryReach : Query → Nat
  | ⟨_, body, _, _⟩ => bodyReach body + 1

def bodyReach : Body → Nat
  | .nested query => queryReach query + 1
  | _ => 0

end

/-- How many levels below a condition the rule reads. -/
def reach : Expr → Nat
  | .inSubquery _ query => queryReach query + 1
  | .binary .operator left right => max (reach left) (reach right) + 1
  | .unary form operand _ => if isConnective form then reach operand + 1 else 0
  | _ => 0

theorem isPlain_outline (block : Select) : isPlain block.outline = isPlain block := by
  obtain ⟨distinct, projection, tables, selection, groupBy, having, qualify, aside⟩ := block
  cases distinct with
  | absent =>
    cases groupBy with
    | all => rfl
    | keys keys => cases keys <;> rfl
  | rows => rfl
  | keys keys => rfl

theorem isUnaggregatedBody_alike (first second : Body) (depth : Nat)
    (alike : Item.Alike limit depth (.body first) (.body second))
    (fits : depth + bodyReach first ≤ limit) :
    isUnaggregatedBody first = isUnaggregatedBody second := by
  obtain ⟨same, parts⟩ := alike.shown (by omega)
  match first, second with
  | .select block, .select block' =>
    have blocks : block.outline = block'.outline := Body.select.inj (Item.body.inj same)
    rw [isUnaggregatedBody, isUnaggregatedBody, ← isPlain_outline, blocks, isPlain_outline]
  | .nested ⟨withClause, inner, orderBy, aside⟩, .nested query =>
    rw [bodyReach, queryReach] at fits
    cases parts with
    | cons head tail =>
      cases head with
      | item queries =>
        have bodies := Query.alike_body queries (by omega)
        obtain ⟨withClause', inner', orderBy', aside'⟩ := query
        simp only [isUnaggregatedBody, isUnaggregated]
        exact isUnaggregatedBody_alike inner inner' (depth + 2) bodies (by omega)
  | .setOperation _ _, .setOperation _ _ => rfl
  | .values _, .values _ => rfl
  | .other _, .other _ => rfl

theorem isUnaggregated_alike {first second : Query}
    (alike : Item.Alike limit depth (.query first) (.query second))
    (fits : depth + queryReach first ≤ limit) :
    isUnaggregated first = isUnaggregated second := by
  obtain ⟨withClause, body, orderBy, aside⟩ := first
  obtain ⟨withClause', body', orderBy', aside'⟩ := second
  rw [queryReach] at fits
  rw [isUnaggregated, isUnaggregated]
  exact isUnaggregatedBody_alike body body' (depth + 1) (Query.alike_body alike (by omega))
    (by omega)

/-- Conditions that are alike as far as the rule reads them count the same, from whatever depth the
rule starts to count. -/
theorem offences_alike (ruleLimit : Nat) (first second : Expr) (depth counter : Nat)
    (alike : Item.Alike limit depth (.expr first) (.expr second))
    (fits : depth + reach first ≤ limit) :
    offences ruleLimit first counter = offences ruleLimit second counter := by
  fun_induction reach first generalizing second depth counter with
  | case1 operand query =>
    obtain ⟨operand', query', rfl, queries⟩ := alike.inSubquery (by omega)
    rw [offences, offences, isUnaggregated_alike queries (by omega)]
  | case2 left right ihLeft ihRight =>
    obtain ⟨left', right', rfl, lefts, rights⟩ := alike.binary (by omega)
    rw [offences, offences, ihLeft left' (depth + 1) (counter + 1) lefts (by omega),
      ihRight right' (depth + 1) (counter + 1) rights (by omega)]
  | case3 form operand aside connective ih =>
    obtain ⟨operand', aside', rfl, operands⟩ := alike.unary (by omega)
    rw [offences, offences, ih operand' (depth + 1) (counter + 1) operands (by omega)]
  | case4 form operand aside connective =>
    obtain ⟨operand', aside', rfl, -⟩ := alike.unary (by omega)
    rw [offences, offences, if_neg connective, if_neg connective]
  | case5 expr membership operator unary =>
    -- If the other condition were of a form that the rule reads, so would this one be.
    rw [offences, offences]
    · rintro operand query rfl
      obtain ⟨operand', query', rfl, -⟩ := alike.symm.inSubquery (by omega)
      exact membership operand' query' rfl
    · rintro left right rfl
      obtain ⟨left', right', rfl, -⟩ := alike.symm.binary (by omega)
      exact operator left' right' rfl
    · rintro form operand aside rfl
      obtain ⟨operand', aside', rfl, -⟩ := alike.symm.unary (by omega)
      exact unary form operand' aside' rfl
    · exact membership
    · exact operator
    · exact unary

theorem nodeMessages_landmark (place : Landmark) : nodeMessages place.val = [] := by
  obtain ⟨node, plain⟩ := place
  cases node with
  | predicate condition => cases plain
  | _ => rfl

/-- No condition that the walk meets is read beyond the depth limit, counted as the walk counts. -/
def ReadsWithin (statement : Statement) : Prop :=
  ∀ met condition, Meets depthLimit statement.startDepth statement.parts met condition →
    met + reach condition ≤ depthLimit

theorem messages_alike {first second : Statement}
    (alike : Statement.Alike depthLimit first second) (fits : ReadsWithin first) :
    messages first = messages second := by
  apply alike.read_walk
  · intro place other _
    rw [nodeMessages_landmark, nodeMessages_landmark]
  · intro met condition other meets alike'
    rw [nodeMessages, nodeMessages,
      offences_alike depthLimit condition other met 0 alike' (fits met condition meets)]

end Rule.InSubquery

open Rule.InSubquery

section Deep

variable {limit depth : Nat}

/-- An expression in some pairs of parentheses. -/
def parenthesized : Nat → Expr → Expr
  | 0, expr => expr
  | count + 1, expr => .unary .parentheses (parenthesized count expr) []

theorem alike_parenthesized (count : Nat) (first second : Expr) (deep : limit < depth + count) :
    Item.Alike limit depth (.expr (parenthesized count first))
      (.expr (parenthesized count second)) := by
  induction count generalizing depth with
  | zero => exact .beyond deep
  | succ count ih => exact .of_parts rfl (.cons (.item (ih (by omega))) .nil)

theorem not_meets_parenthesized (count : Nat) (expr : Expr) (deep : limit < depth + count)
    (met : Nat) (condition : Expr) :
    ¬Meets limit depth [.item (.expr (parenthesized count expr))] met condition := by
  induction count generalizing depth with
  | zero =>
    have outside : ¬depth ≤ limit := by omega
    simp [outside]
  | succ count ih =>
    intro meets
    rcases (meets_item _ _).mp meets with ⟨-, deeper⟩ | last
    · exact ih (by omega) deeper
    · exact meets_nil last

theorem alike_selecting (table : ObjectName) (first second : Expr)
    (alike : Item.Alike limit 2 (.expr first) (.expr second)) :
    Statement.Alike limit (.query (selecting table (some first)))
      (.query (selecting table (some second))) := by
  have bodies : Item.Alike limit 1 (.body (selecting table (some first)).body)
      (.body (selecting table (some second)).body) :=
    .of_parts rfl (.cons (.landmark rfl)
      (.cons (.item (.refl _ _)) (.cons (.condition alike) .nil)))
  have queries : Item.Alike limit 0 (.query (selecting table (some first)))
      (.query (selecting table (some second))) := .of_parts rfl (.cons (.item bodies) .nil)
  refine ⟨rfl, ?_⟩
  intro pair member item other here there
  cases List.mem_singleton.mp member
  cases here
  cases there
  exact queries

theorem meets_selecting (table : ObjectName) (tested : Expr) (met : Nat) (condition : Expr)
    (meets : Meets limit 0 (Statement.query (selecting table (some tested))).parts met condition) :
    (condition = tested ∧ met = 2) ∨ Meets limit 3 tested.parts met condition := by
  have found : 1 ≤ limit ∧ ((condition = tested ∧ met = 2) ∨
      2 ≤ limit ∧ Meets limit 3 tested.parts met condition) := by
    simpa [Statement.parts, Statement.query?, selecting, Item.parts, Query.parts, Query.bodyParts,
      withParts, Body.parts, Select.parts, TableRef.parts, Factor.parts, whereParts,
      GroupBy.parts] using meets
  rcases found with ⟨-, here | ⟨-, deeper⟩⟩
  · exact .inl here
  · exact .inr deeper

/-- A condition that tests membership and, beside the test, holds a tuple with an expression in
parentheses. -/
def besideTuple (count : Nat) (expr : Expr) : Expr :=
  .binary .operator (testing none) (.row .tuple [parenthesized count expr] [])

theorem alike_besideTuple (count : Nat) (first second : Expr) (deep : limit < depth + 2 + count) :
    Item.Alike limit depth (.expr (besideTuple count first))
      (.expr (besideTuple count second)) := by
  have rows : Item.Alike limit (depth + 1) (.expr (.row .tuple [parenthesized count first] []))
      (.expr (.row .tuple [parenthesized count second] [])) :=
    .of_parts rfl (.cons (.item (alike_parenthesized count first second deep)) .nil)
  exact .of_parts rfl (.cons (.item (.refl _ _)) (.cons (.item rows) .nil))

theorem not_meets_besideTuple (count : Nat) (expr : Expr) (deep : limit < depth + 1 + count)
    (met : Nat) (condition : Expr) :
    ¬Meets limit depth (besideTuple count expr).parts met condition := by
  have test : ¬Meets limit (depth + 1) (Item.expr (testing none)).parts met condition := by
    simp [testing, selecting, Item.parts, Expr.parts, Query.parts, Query.bodyParts, withParts,
      Body.parts, Select.parts, TableRef.parts, Factor.parts, whereParts, GroupBy.parts]
  intro meets
  rcases (meets_item _ _).mp meets with ⟨-, inTest⟩ | later
  · exact test inTest
  rcases (meets_item _ _).mp later with ⟨-, inTuple⟩ | last
  · exact not_meets_parenthesized count expr deep met condition inTuple
  · exact meets_nil last

end Deep

/-- A call that is noticed where it is seen. -/
def noticedCall : Expr :=
  .call ⟨[.ident ⟨Rule.RegexpContains.functionName, none, Span.empty⟩], .absent, .absent, none, [],
    .absent, []⟩

/-- Statements that differ only beyond the depth limit have the same messages from a detector. For
membership tests this takes that no condition is read beyond the limit. -/
theorem Detector.messages_of_alike (detector : Detector) (first second : Statement)
    (alike : Statement.Alike depthLimit first second)
    (fits : detector = .inSubquery → ReadsWithin first) :
    detector.messages first = detector.messages second := by
  cases detector with
  | sharedCte => exact Rule.SharedCte.messages_alike alike
  | regexpContains => exact Rule.RegexpContains.messages_alike alike
  | inSubquery => exact Rule.InSubquery.messages_alike alike (fits rfl)

/-- A call at depth 101 shows in no message; the membership test beside it does. -/
theorem Detector.messages_of_alike_tuple :
    let first := Statement.query (selecting [] (some (besideTuple 97 noticedCall)))
    let second := Statement.query (selecting [] (some (besideTuple 97 (.atom "Identifier" []))))
    Statement.Alike depthLimit first second ∧ ReadsWithin first ∧
      (∀ detector : Detector, detector.messages first = detector.messages second) ∧
      Detector.inSubquery.messages second = [message] := by
  intro first second
  have alike : Statement.Alike depthLimit first second :=
    alike_selecting [] _ _ (alike_besideTuple 97 _ _ (by decide))
  have fits : ReadsWithin first := by
    intro met condition meets
    rcases meets_selecting [] _ met condition meets with ⟨rfl, rfl⟩ | deeper
    · decide
    · exact absurd deeper (not_meets_besideTuple 97 noticedCall (by decide) met condition)
  exact ⟨alike, fits, fun detector => Detector.messages_of_alike detector first second alike
    fun _ => fits, by decide +kernel⟩

/-- A condition in parentheses is read to the end although it lies beyond the limit: here the
membership test is at depth 101, and the rule counts no more than 99 levels down to it. -/
theorem Detector.messages_differ_beyond_limit :
    let first := Statement.query (selecting [] (some (parenthesized 99 (testing none))))
    let second := Statement.query (selecting [] (some (parenthesized 99 (.atom "Identifier" []))))
    Statement.Alike depthLimit first second ∧
      Detector.inSubquery.messages first = [message] ∧
      Detector.inSubquery.messages second = [] := by
  intro first second
  have alike : Statement.Alike depthLimit first second :=
    alike_selecting [] _ _ (alike_parenthesized 99 _ _ (by decide))
  exact ⟨alike, by decide +kernel, by decide +kernel⟩

end QueryLint
