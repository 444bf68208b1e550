import QueryLint.Proofs.Walk.Preorder
import QueryLint.Rule.RegexpContains

/-!
The calls that a statement holds, and the messages about them.

The calls are collected by recursion over the whole tree, through every list and optional clause
that a tree has. Some of these are left out of every walk: the keys of a `DISTINCT ON`, the
`MATCH_CONDITION` of a join, and the expressions that a node holds aside. The calls in them, however
deep, lie aside.

Main statement: a statement within the depth limit has one message for each call of the function
that does not lie aside, so it has one for each of all its calls just if none of them lies aside.
-/

namespace QueryLint

namespace Sql

/-- A call in a tree, and whether it lies aside of what is walked. -/
structure CallSite where
  call : Call
  aside : Bool

def CallSite.setAside (site : CallSite) : CallSite := { site with aside := true }

mutual

def Query.calls : Query → List CallSite
  | ⟨withClause, body, orderBy, aside⟩ =>
    callsInWith withClause ++ body.calls ++ callsInExprs orderBy ++
      (callsInExprs aside).map CallSite.setAside

def callsInWith : Option (List Cte) → List CallSite
  | none => []
  | some ctes => callsInCtes ctes

def callsInCtes : List Cte → List CallSite
  | [] => []
  | ⟨_, query⟩ :: rest => query.calls ++ callsInCtes rest

def Body.calls : Body → List CallSite
  | .select block => block.calls
  | .nested query => query.calls
  | .setOperation left right => left.calls ++ right.calls
  | .values rows => callsInRows rows
  | .other aside => (callsInExprs aside).map CallSite.setAside

def Select.calls : Select → List CallSite
  | ⟨distinct, projection, tables, selection, groupBy, having, qualify, aside⟩ =>
    distinct.calls ++ callsInItems projection ++ callsInTables tables ++ callsInOption selection ++
      groupBy.calls ++ callsInOption having ++ callsInOption qualify ++
      (callsInExprs aside).map CallSite.setAside

def Distinct.calls : Distinct → List CallSite
  | .absent => []
  | .rows => []
  | .keys keys => (callsInExprs keys).map CallSite.setAside

def callsInItems : List SelectItem → List CallSite
  | [] => []
  | .expr expr :: rest => expr.calls ++ callsInItems rest
  | .wildcard replacements :: rest => callsInExprs replacements ++ callsInItems rest

def GroupBy.calls : GroupBy → List CallSite
  | .all => []
  | .keys keys => callsInExprs keys

def callsInTables : List TableRef → List CallSite
  | [] => []
  | table :: rest => table.calls ++ callsInTables rest

def TableRef.calls : TableRef → List CallSite
  | ⟨relation, joins⟩ => relation.calls ++ callsInJoins joins

def callsInJoins : List Join → List CallSite
  | [] => []
  | ⟨relation, matching, condition, aside⟩ :: rest =>
    relation.calls ++ (callsInOption matching).map CallSite.setAside ++ callsInOption condition ++
      (callsInExprs aside).map CallSite.setAside ++ callsInJoins rest

def Factor.calls : Factor → List CallSite
  | .table _ aside => (callsInExprs aside).map CallSite.setAside
  | .derived query aside => query.calls ++ (callsInExprs aside).map CallSite.setAside
  | .nestedJoin table aside => table.calls ++ (callsInExprs aside).map CallSite.setAside
  | .unnest arrays aside =>
    callsInExprs arrays ++ (callsInExprs aside).map CallSite.setAside
  | .tableFunction expr aside => expr.calls ++ (callsInExprs aside).map CallSite.setAside
  | .reshaped relation aside =>
    relation.calls ++ (callsInExprs aside).map CallSite.setAside
  | .other aside => (callsInExprs aside).map CallSite.setAside

def Expr.calls : Expr → List CallSite
  | .atom _ aside => (callsInExprs aside).map CallSite.setAside
  | .call made => made.calls
  | .unary _ operand aside => operand.calls ++ (callsInExprs aside).map CallSite.setAside
  | .binary _ left right => left.calls ++ right.calls
  | .between operand low high => operand.calls ++ low.calls ++ high.calls
  | .substring operand start count => operand.calls ++ callsInOption start ++ callsInOption count
  | .trim operand what characters =>
    operand.calls ++ callsInOption what ++ callsInExprs characters
  | .overlay operand what start count =>
    operand.calls ++ what.calls ++ start.calls ++ callsInOption count
  | .convert operand styles aside =>
    operand.calls ++ callsInExprs styles ++ (callsInExprs aside).map CallSite.setAside
  | .choice operand arms otherwise =>
    callsInOption operand ++ callsInPairs arms ++ callsInOption otherwise
  | .access root chain => root.calls ++ callsInChain chain
  | .map entries => callsInPairs entries
  | .row _ items aside => callsInExprs items ++ (callsInExprs aside).map CallSite.setAside
  | .grouping _ sets => callsInRows sets
  | .inList operand items => operand.calls ++ callsInExprs items
  | .inSubquery operand query => operand.calls ++ query.calls
  | .subquery query => query.calls
  | .existsIn query => query.calls

def callsInOption : Option Expr → List CallSite
  | none => []
  | some expr => expr.calls

def callsInExprs : List Expr → List CallSite
  | [] => []
  | expr :: rest => expr.calls ++ callsInExprs rest

def callsInRows : List (List Expr) → List CallSite
  | [] => []
  | row :: rest => callsInExprs row ++ callsInRows rest

def callsInPairs : List (Expr × Expr) → List CallSite
  | [] => []
  | (first, second) :: rest => first.calls ++ second.calls ++ callsInPairs rest

def callsInChain : List Access → List CallSite
  | [] => []
  | .field expr :: rest => expr.calls ++ callsInChain rest
  | .index expr :: rest => expr.calls ++ callsInChain rest
  | .slice lower upper stride :: rest =>
    callsInOption lower ++ callsInOption upper ++ callsInOption stride ++ callsInChain rest

/-- A call comes before those in its arguments, filter and window. -/
def Call.calls : Call → List CallSite
  | ⟨name, parameters, arguments, filter, withinGroup, window, aside⟩ =>
    ⟨⟨name, parameters, arguments, filter, withinGroup, window, aside⟩, false⟩ ::
      (parameters.calls ++ arguments.calls ++ callsInOption filter ++ callsInExprs withinGroup ++
        window.calls ++ (callsInExprs aside).map CallSite.setAside)

def Window.calls : Window → List CallSite
  | .absent => []
  | .named => []
  | .spec partitionBy orderBy => callsInExprs partitionBy ++ callsInExprs orderBy

def Arguments.calls : Arguments → List CallSite
  | .absent => []
  | .subquery query => query.calls
  | .list arguments clauses => callsInArguments arguments ++ callsInClauses clauses

def callsInArguments : List Argument → List CallSite
  | [] => []
  | .plain value :: rest => callsInOption value ++ callsInArguments rest
  | .labelled label value :: rest => label.calls ++ callsInOption value ++ callsInArguments rest

def callsInClauses : List ArgumentClause → List CallSite
  | [] => []
  | .orderBy keys :: rest => callsInExprs keys ++ callsInClauses rest
  | .limit count :: rest => count.calls ++ callsInClauses rest
  | .other :: rest => callsInClauses rest

end

def MergeAction.calls : MergeAction → List CallSite
  | .update values => callsInExprs values
  | .insertRows rows => callsInRows rows
  | .other => []

def MergeClause.calls (clause : MergeClause) : List CallSite :=
  callsInOption clause.predicate ++ clause.action.calls

/-- The calls that a statement holds, each as often as it occurs. -/
def Statement.calls : Statement → List CallSite
  | .query carried => carried.calls
  | .insert source aside =>
    source.elim [] Query.calls ++ (callsInExprs aside).map CallSite.setAside
  | .createView carried => carried.calls
  | .createTable carried => carried.elim [] Query.calls
  | .update target values sources selection aside =>
    target.calls ++ callsInExprs values ++ callsInTables sources ++ callsInOption selection ++
      (callsInExprs aside).map CallSite.setAside
  | .delete targets sources selection aside =>
    callsInTables targets ++ callsInTables sources ++ callsInOption selection ++
      (callsInExprs aside).map CallSite.setAside
  | .merge target source condition clauses aside =>
    target.calls ++ source.calls ++ condition.calls ++ clauses.flatMap MergeClause.calls ++
      (callsInExprs aside).map CallSite.setAside
  | .other _ => []

def Item.calls : Item → List CallSite
  | .query inner => inner.calls
  | .body inner => inner.calls
  | .relation inner => inner.calls
  | .expr inner => inner.calls

def Node.call? : Node → Option Call
  | .call made => some made
  | _ => none

/-- The calls that a part lists or leads to. -/
def Part.calls (part : Part) : List CallSite :=
  (part.listed.filterMap Node.call?).map (⟨·, false⟩) ++ part.entered.elim [] Item.calls

def callsInParts (parts : List Part) : List CallSite := parts.flatMap Part.calls

/-- The calls that do not lie aside. -/
def inView (sites : List CallSite) : List Call :=
  sites.filterMap fun site => if site.aside then none else some site.call

section Parts

@[simp]
theorem inView_nil : inView [] = [] := rfl

@[simp]
theorem inView_cons (call : Call) (sites : List CallSite) :
    inView (⟨call, false⟩ :: sites) = call :: inView sites := rfl

@[simp]
theorem inView_append (first second : List CallSite) :
    inView (first ++ second) = inView first ++ inView second := List.filterMap_append

@[simp]
theorem inView_setAside (sites : List CallSite) : inView (sites.map CallSite.setAside) = [] := by
  unfold inView
  rw [List.filterMap_map, List.filterMap_eq_nil_iff]
  intro site _
  rfl

@[simp]
theorem callsInParts_nil : callsInParts [] = [] := rfl

@[simp]
theorem callsInParts_cons (part : Part) (parts : List Part) :
    callsInParts (part :: parts) = part.calls ++ callsInParts parts := List.flatMap_cons

@[simp]
theorem callsInParts_append (first second : List Part) :
    callsInParts (first ++ second) = callsInParts first ++ callsInParts second :=
  List.flatMap_append

@[simp]
theorem Part.calls_item (inner : Item) : (Part.item inner).calls = inner.calls := rfl

@[simp]
theorem callsInExprs_eq (exprs : List Expr) :
    callsInExprs exprs = callsInParts (exprParts exprs) := by
  induction exprs with
  | nil => rfl
  | cons expr rest ih => simp [callsInExprs, ih, Item.calls]

@[simp]
theorem callsInOption_eq (expr : Option Expr) :
    callsInOption expr = callsInParts (exprParts expr.toList) := by
  cases expr with
  | none => rfl
  | some expr => simp [callsInOption, Item.calls]

@[simp]
theorem callsInRows_eq (rows : List (List Expr)) :
    callsInRows rows = callsInParts (exprParts rows.flatten) := by
  induction rows with
  | nil => rfl
  | cons row rest ih => simp [callsInRows, ih]

@[simp]
theorem callsInPairs_eq (pairs : List (Expr × Expr)) :
    callsInPairs pairs =
      callsInParts (exprParts (pairs.flatMap fun pair => [pair.1, pair.2])) := by
  induction pairs with
  | nil => rfl
  | cons pair rest ih => simp [callsInPairs, ih, Item.calls]

@[simp]
theorem callsInChain_eq (chain : List Access) :
    callsInChain chain = callsInParts (chain.flatMap Access.parts) := by
  induction chain with
  | nil => rfl
  | cons access rest ih => cases access <;> simp [callsInChain, Access.parts, ih, Item.calls]

@[simp]
theorem callsInArguments_eq (arguments : List Argument) :
    callsInArguments arguments = callsInParts (arguments.flatMap Argument.parts) := by
  induction arguments with
  | nil => rfl
  | cons argument rest ih =>
    cases argument <;> simp [callsInArguments, Argument.parts, ih, Item.calls]

@[simp]
theorem callsInClauses_eq (clauses : List ArgumentClause) :
    callsInClauses clauses = callsInParts (clauses.flatMap ArgumentClause.parts) := by
  induction clauses with
  | nil => rfl
  | cons clause rest ih =>
    cases clause <;> simp [callsInClauses, ArgumentClause.parts, ih, Item.calls]

@[simp]
theorem Arguments.calls_eq (arguments : Arguments) :
    arguments.calls = callsInParts arguments.parts := by
  cases arguments <;> simp [Arguments.calls, Arguments.parts, Item.calls]

@[simp]
theorem Window.calls_eq (window : Window) : window.calls = callsInParts window.parts := by
  cases window <;> simp [Window.calls, Window.parts]

theorem Call.inView_calls (call : Call) :
    inView call.calls = inView (callsInParts call.parts) := by
  have listed (made : Call) : (Part.landmark ⟨.call made, rfl⟩).calls = [⟨made, false⟩] := rfl
  cases call
  simp [Call.calls, Call.parts, listed]

theorem Expr.inView_calls (expr : Expr) :
    inView expr.calls = inView (callsInParts expr.parts) := by
  cases expr <;> simp [Expr.calls, Expr.parts, Call.inView_calls, Item.calls]

@[simp]
theorem callsInWhere_eq (selection : Option Expr) :
    callsInParts (whereParts selection) = callsInParts (exprParts selection.toList) := by
  cases selection <;> rfl

@[simp]
theorem inView_callsInJoins (joins : List Join) :
    inView (callsInJoins joins) = inView (callsInParts (joins.flatMap Join.parts)) := by
  induction joins with
  | nil => rfl
  | cons join rest ih =>
    cases join
    simp [callsInJoins, Join.parts, ih, Item.calls]

@[simp]
theorem TableRef.inView_calls (table : TableRef) :
    inView table.calls = inView (callsInParts table.parts) := by
  cases table
  simp [TableRef.calls, TableRef.parts, Item.calls]

@[simp]
theorem inView_callsInTables (tables : List TableRef) :
    inView (callsInTables tables) = inView (callsInParts (tables.flatMap TableRef.parts)) := by
  induction tables with
  | nil => rfl
  | cons table rest ih => simp [callsInTables, ih]

theorem Factor.inView_calls (relation : Factor) :
    inView relation.calls = inView (callsInParts relation.parts) := by
  have listed (name : ObjectName) : (Part.landmark ⟨.table name, rfl⟩).calls = [] := rfl
  cases relation <;> simp [Factor.calls, Factor.parts, Item.calls, listed]

@[simp]
theorem callsInItems_eq (items : List SelectItem) :
    callsInItems items = callsInParts (items.flatMap SelectItem.parts) := by
  induction items with
  | nil => rfl
  | cons item rest ih => cases item <;> simp [callsInItems, SelectItem.parts, ih, Item.calls]

@[simp]
theorem GroupBy.calls_eq (groupBy : GroupBy) : groupBy.calls = callsInParts groupBy.parts := by
  cases groupBy <;> simp [GroupBy.calls, GroupBy.parts]

/-- The keys of a `DISTINCT ON` are out of view. -/
@[simp]
theorem Distinct.inView_calls (distinct : Distinct) : inView distinct.calls = [] := by
  cases distinct with
  | keys keys => exact inView_setAside _
  | _ => rfl

theorem Select.inView_calls (select : Select) :
    inView select.calls = inView (callsInParts select.parts) := by
  have listed (block : Select) : (Part.landmark ⟨.select block, rfl⟩).calls = [] := rfl
  cases select
  simp [Select.calls, Select.parts, listed]

theorem Body.inView_calls (body : Body) :
    inView body.calls = inView (callsInParts body.parts) := by
  cases body <;> simp [Body.calls, Body.parts, Select.inView_calls, Item.calls]

@[simp]
theorem callsInWith_eq (withClause : Option (List Cte)) :
    callsInWith withClause = callsInParts (withParts withClause) := by
  cases withClause with
  | none => rfl
  | some ctes =>
    have entries : callsInCtes ctes =
        callsInParts (ctes.map fun cte => .item (.query cte.query)) := by
      induction ctes with
      | nil => rfl
      | cons cte rest ih =>
        cases cte
        simp [callsInCtes, ih, Item.calls]
    exact entries

theorem Query.inView_calls (query : Query) :
    inView query.calls = inView (callsInParts query.parts) := by
  cases query
  simp [Query.calls, Query.parts, Query.bodyParts, Item.calls]

/-- What an item has in view is what its parts have. -/
theorem Item.inView_calls (item : Item) :
    inView item.calls = inView (callsInParts item.parts) := by
  cases item with
  | query query => exact query.inView_calls
  | body body => exact body.inView_calls
  | relation relation => exact relation.inView_calls
  | expr expr => exact expr.inView_calls

theorem callsInMerge_eq (clauses : List MergeClause) :
    clauses.flatMap MergeClause.calls = callsInParts (clauses.flatMap MergeClause.parts) := by
  induction clauses with
  | nil => rfl
  | cons clause rest ih =>
    obtain ⟨predicate, action⟩ := clause
    cases action <;>
      simp [MergeClause.calls, MergeClause.parts, MergeAction.calls, MergeAction.parts, ih]

theorem Statement.inView_calls (statement : Statement) :
    inView statement.calls = inView (callsInParts statement.parts) := by
  cases statement with
  | insert source aside =>
    cases source <;> simp [Statement.calls, Statement.parts, Statement.query?, Statement.clauses,
      Item.calls]
  | createTable carried =>
    cases carried <;> simp [Statement.calls, Statement.parts, Statement.query?, Statement.clauses,
      Item.calls]
  | _ =>
    simp [Statement.calls, Statement.parts, Statement.query?, Statement.clauses, Item.calls,
      callsInMerge_eq]

end Parts

/-- Parts have in view the calls among their nodes if the same holds of all that they lead to. -/
theorem inView_callsInParts (parts : List Part)
    (inner : ∀ part ∈ parts, ∀ item, part.entered = some item →
      inView item.calls = item.preorder.filterMap Node.call?) :
    inView (callsInParts parts) = (preorderParts parts).filterMap Node.call? := by
  have listed (calls : List Call) : inView (calls.map (⟨·, false⟩)) = calls := by
    rw [inView, List.filterMap_map]
    exact List.filterMap_some
  induction parts with
  | nil => rfl
  | cons part rest ih =>
    have others := ih fun other member => inner other (List.mem_cons_of_mem _ member)
    rw [callsInParts_cons, preorderParts, List.flatMap_cons, ← preorderParts, inView_append,
      List.filterMap_append, others, Part.calls, Part.preorder, inView_append, listed,
      List.filterMap_append]
    congr 2
    cases entered : part.entered with
    | none => rfl
    | some item => exact inner part List.mem_cons_self item entered

/-- The calls in view are those that the listing of a tree gives, in its order. -/
theorem Item.inView_calls_eq (item : Item) :
    inView item.calls = item.preorder.filterMap Node.call? := by
  induction item using Item.walkInduction with
  | step item ih =>
    rw [Item.inView_calls, Item.preorder_eq]
    exact inView_callsInParts item.parts ih

theorem Statement.inView_calls_eq (statement : Statement) :
    inView statement.calls = (preorderParts statement.parts).filterMap Node.call? := by
  rw [Statement.inView_calls]
  apply inView_callsInParts
  intro _ _ item _
  exact item.inView_calls_eq

/-- An identifier as it is compared: in lower case, or as it stands if it is quoted. -/
def Ident.spelling (ident : Ident) : String :=
  if ident.quote.isSome then ident.value else Text.lowercase ident.value

/-- Some identifier in the name of a call reads as a word. -/
def Call.Mentions (word : String) (call : Call) : Prop :=
  ∃ ident ∈ call.name.idents, ident.spelling = word

instance (word : String) (call : Call) : Decidable (call.Mentions word) :=
  inferInstanceAs (Decidable (∃ ident ∈ call.name.idents, ident.spelling = word))

end Sql

namespace Rule.RegexpContains

open Sql

theorem isNamed_iff (ident : Ident) : isNamed ident = true ↔ ident.spelling = functionName := by
  unfold isNamed Ident.spelling
  cases ident.quote <;> simp

theorem isFlagged_iff (call : Call) : isFlagged call = true ↔ call.Mentions functionName := by
  simp only [isFlagged, Call.Mentions, List.any_eq_true, isNamed_iff]

theorem flatMap_nodeMessages (nodes : List Node) :
    nodes.flatMap nodeMessages =
      List.replicate ((nodes.filterMap Node.call?).countP isFlagged) message := by
  induction nodes with
  | nil => rfl
  | cons node rest ih =>
    rw [List.flatMap_cons, ih]
    cases node with
    | call made =>
      have head : (Node.call made :: rest).filterMap Node.call? =
          made :: rest.filterMap Node.call? := rfl
      rw [nodeMessages, head, List.countP_cons]
      split
      · rw [List.replicate_succ, List.singleton_append]
      · rfl
    | _ => rfl

/-- The calls of the function that a statement holds, aside or not. -/
def sites (statement : Statement) : List CallSite :=
  statement.calls.filter fun site => site.call.Mentions functionName

theorem countP_inView (statement : Statement) :
    (inView statement.calls).countP isFlagged =
      (sites statement).countP (fun site => !site.aside) := by
  rw [inView, List.countP_filterMap, sites, List.countP_filter]
  apply List.countP_congr
  intro site _
  cases site.aside <;> simp [isFlagged_iff]

/-- Within the depth limit there is one message for each call of the function that does not lie
aside. All calls of the function have their messages just if none lies aside. -/
theorem messages_eq_replicate_sites (statement : Statement)
    (fits : statement.deepest ≤ depthLimit) :
    messages statement =
        List.replicate ((sites statement).countP fun site => !site.aside) message ∧
      (messages statement = List.replicate (sites statement).length message ↔
        ∀ site ∈ sites statement, site.aside = false) := by
  have given : messages statement =
      List.replicate ((sites statement).countP fun site => !site.aside) message := by
    rw [messages, Statement.walk_preorder depthLimit statement fits, flatMap_nodeMessages,
      ← Statement.inView_calls_eq, countP_inView]
  refine ⟨given, ?_⟩
  rw [given, List.replicate_left_inj, List.countP_eq_length]
  simp

/-- A call with some arguments. -/
def calling (name : List String) (arguments : List Expr) : Expr :=
  .call ⟨name.map fun value => .ident ⟨value, none, Span.empty⟩, .absent,
    .list (arguments.map fun value => .plain (some value)) [], none, [], .absent, []⟩

/-- A call of the function among the arguments of another, with a name that matches twice. -/
def nestedCalls : Statement :=
  .delete [] [] (some (calling ["REGEXP_CONTAINS"]
    [.atom "Identifier" [],
      calling ["regexp_contains", "Regexp_Contains"] [.atom "Value" []]])) []

theorem messages_eq_replicate_sites_nested :
    nestedCalls.deepest ≤ depthLimit ∧ messages nestedCalls = [message, message] := by
  have fits : nestedCalls.deepest ≤ depthLimit := by
    simp [nestedCalls, calling, Statement.deepest, Statement.query?, Statement.clauses, whereParts,
      levels, Part.levels, Part.entered, Item.height_eq, Item.parts, Expr.parts, Call.parts,
      Arguments.parts, Argument.parts, Window.parts, depthLimit]
  refine ⟨fits, ?_⟩
  rw [(messages_eq_replicate_sites nestedCalls fits).1]
  decide +kernel

/-- A query that selects nothing, given what it is distinct on, what it reads and what it holds
aside. -/
def selectingBy (distinct : Distinct) (tables : List TableRef) (aside : List Expr) : Statement :=
  .query ⟨none, .select ⟨distinct, [], tables, none, .keys [], none, none, []⟩, [], aside⟩

/-- A call in the keys of a `DISTINCT ON`, in a `MATCH_CONDITION` or in a `LIMIT` has no message. -/
theorem messages_omit_calls_aside :
    let made := calling [functionName] []
    let keyed := selectingBy (.keys [made]) [] []
    let matched :=
      selectingBy .absent [⟨.table [] [], [⟨.table [] [], some made, none, []⟩]⟩] []
    let limited := selectingBy .absent [] [made]
    ∀ statement ∈ [keyed, matched, limited], statement.deepest ≤ depthLimit ∧
      (sites statement).length = 1 ∧ messages statement = [] := by
  intro made keyed matched limited
  have fits : ∀ statement ∈ [keyed, matched, limited], statement.deepest ≤ depthLimit := by
    simp [keyed, matched, limited, selectingBy, Statement.deepest, Statement.query?, levels,
      Part.levels, Part.entered, Item.height_eq, Item.parts, Query.parts, Query.bodyParts, withParts,
      Body.parts, Select.parts, TableRef.parts, Join.parts, Factor.parts, whereParts, GroupBy.parts,
      depthLimit]
  have silent : ∀ statement ∈ [keyed, matched, limited],
      (sites statement).length = 1 ∧ messages statement = [] := by decide +kernel
  intro statement member
  exact ⟨fits statement member, silent statement member⟩

end Rule.RegexpContains

end QueryLint
