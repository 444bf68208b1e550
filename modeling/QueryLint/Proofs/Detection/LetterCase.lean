import Mathlib.Data.List.SplitBy
import QueryLint.Detector
import QueryLint.Proofs.InSubquery.Occurrences
import QueryLint.Proofs.SharedCte.References
import QueryLint.Proofs.Walk.Rename

/-!
Detection and the case of letters. Two statements differ only in letter case if they become equal
once every identifier is put in lower case.

Main statement: such statements have the same messages about shared common table expressions and
about membership tests; and the same about calls, as long as the quoted parts of the names of calls
agree, which are compared as they stand.
-/

namespace QueryLint

open Sql

section Views

variable {α β : Type} {view : α → β}

/-- Lists that look the same are made of members that look the same. -/
theorem forall₂_of_map_eq {first second : List α} (same : first.map view = second.map view) :
    List.Forall₂ (fun left right => view left = view right) first second := by
  rw [← List.forall₂_eq_eq_eq, List.forall₂_map_left_iff, List.forall₂_map_right_iff] at same
  exact same

theorem foldl_of_map_eq {σ : Type} {step : σ → α → σ}
    (seen : ∀ state left right, view left = view right → step state left = step state right)
    {first second : List α} (same : first.map view = second.map view) (state : σ) :
    first.foldl step state = second.foldl step state := by
  apply List.rel_foldl (P := Eq) _ rfl (forall₂_of_map_eq same)
  intro state other reached left right look
  rw [reached]
  exact seen other left right look

/-- What is read of each member can be told from two views of it. -/
theorem map_of_maps_eq {γ δ : Type} {side : α → γ} {read : α → δ}
    (seen : ∀ left right, view left = view right → side left = side right → read left = read right)
    {first second : List α} (same : first.map view = second.map view)
    (beside : first.map side = second.map side) : first.map read = second.map read := by
  have pairs : first.map (fun member => (view member, side member)) =
      second.map fun member => (view member, side member) := by
    rw [← List.zip_map', ← List.zip_map', same, beside]
  rw [← List.forall₂_eq_eq_eq, List.forall₂_map_left_iff, List.forall₂_map_right_iff]
  apply (forall₂_of_map_eq pairs).imp
  intro left right look
  exact seen left right (congrArg Prod.fst look) (congrArg Prod.snd look)

end Views

namespace Sql

def Ident.lowered (ident : Ident) : Ident := { ident with value := Text.lowercase ident.value }

def Ident.erased (ident : Ident) : Ident := { ident with value := "" }

/-- An identifier is kept if it is quoted and erased if not. -/
def Ident.quotedOnly (ident : Ident) : Ident := if ident.quote.isSome then ident else ident.erased

/-- All names in lower case. -/
def lowering : Renaming := ⟨Ident.lowered, Ident.lowered⟩

/-- Of all names only the quoted parts of the names of calls are kept. -/
def quotedCalls : Renaming := ⟨Ident.erased, Ident.quotedOnly⟩

/-- Two statements that differ only in the case of letters in identifiers. -/
def Statement.SameButCase (first second : Statement) : Prop :=
  first.rename lowering = second.rename lowering

/-- Two statements in which the quoted parts of the names of calls agree. -/
def Statement.SameQuotedCalls (first second : Statement) : Prop :=
  first.rename quotedCalls = second.rename quotedCalls

theorem idents_rename (change : Ident → Ident) (name : ObjectName) :
    (ObjectName.rename change name).idents = name.idents.map change := by
  unfold ObjectName.idents ObjectName.rename
  rw [List.filterMap_map, List.map_filterMap]
  apply List.filterMap_congr
  intro part _
  cases part <;> rfl

theorem Statement.map_walk_of_rename_eq {names : Renaming} {first second : Statement}
    (same : first.rename names = second.rename names) (limit : Nat) :
    (first.walk limit).map (Node.rename names) = (second.walk limit).map (Node.rename names) := by
  rw [← Statement.walk_rename, ← Statement.walk_rename, same]

end Sql

namespace Rule.InSubquery

variable (names : Renaming)

theorem isPlain_rename (block : Select) : isPlain (block.rename names) = isPlain block := by
  obtain ⟨distinct, projection, tables, selection, groupBy, having, qualify, aside⟩ := block
  cases distinct with
  | absent =>
    cases groupBy with
    | all => rfl
    | keys keys => cases keys <;> rfl
  | rows => rfl
  | keys keys => rfl

theorem isUnaggregatedBody_rename (body : Body) :
    isUnaggregatedBody (body.rename names) = isUnaggregatedBody body := by
  match body with
  | .select block => exact isPlain_rename names block
  | .nested ⟨withClause, inner, orderBy, aside⟩ =>
    simp only [Body.rename, Query.rename, isUnaggregatedBody, isUnaggregated]
    exact isUnaggregatedBody_rename inner
  | .setOperation left right => rfl
  | .values rows => rfl
  | .other aside => rfl

theorem isUnaggregated_rename (query : Query) :
    isUnaggregated (query.rename names) = isUnaggregated query := by
  cases query
  exact isUnaggregatedBody_rename names _

/-- A condition is read without regard to names. -/
theorem offences_rename (limit : Nat) (condition : Expr) (depth : Nat) :
    offences limit (condition.rename names) depth = offences limit condition depth := by
  fun_induction offences limit condition depth with
  | case1 depth operand query beyond => rw [Expr.rename, offences, if_pos beyond]
  | case2 depth operand query inside plain =>
    rw [Expr.rename, offences, if_neg inside, isUnaggregated_rename, if_pos plain]
  | case3 depth operand query inside aggregated =>
    rw [Expr.rename, offences, if_neg inside, isUnaggregated_rename, if_neg aggregated]
  | case4 depth left right beyond => rw [Expr.rename, offences, if_pos beyond]
  | case5 depth left right inside ihLeft ihRight =>
    rw [Expr.rename, offences, if_neg inside, ihLeft, ihRight]
  | case6 form operand aside depth beyond => rw [Expr.rename, offences, if_pos beyond]
  | case7 form operand aside depth inside connective ih =>
    rw [Expr.rename, offences, if_neg inside, if_pos connective, ih]
  | case8 form operand aside depth inside other =>
    rw [Expr.rename, offences, if_neg inside, if_neg other]
  | case9 expr depth membership operator unary =>
    cases expr with
    | inSubquery operand query => exact absurd rfl (membership operand query)
    | unary form operand aside => exact absurd rfl (unary form operand aside)
    | binary form left right =>
      have other : form ≠ .operator := fun same => operator left right (same ▸ rfl)
      simp [Expr.rename, offences, other]
    | _ => rfl

theorem nodeMessages_rename (node : Node) :
    nodeMessages (node.rename names) = nodeMessages node := by
  cases node with
  | predicate condition => rw [Node.rename, nodeMessages, nodeMessages, offences_rename]
  | _ => rfl

/-- No message about membership tests depends on a name. -/
theorem messages_rename (statement : Statement) :
    messages (statement.rename names) = messages statement := by
  rw [messages, messages, Statement.walk_rename, List.flatMap_map]
  apply List.flatMap_congr
  intro node _
  exact nodeMessages_rename names node

end Rule.InSubquery

namespace Rule.RegexpContains

/-- What an identifier is matched by can be told from its lower-case form if it is not quoted, and
from the identifier itself if it is. -/
theorem isNamed_congr (left right : Ident) (lowered : left.lowered = right.lowered)
    (quoted : left.quotedOnly = right.quotedOnly) : isNamed left = isNamed right := by
  have quotes : left.lowered.quote = right.lowered.quote := congrArg Ident.quote lowered
  unfold isNamed
  cases quote : left.quote with
  | none =>
    have values : Text.lowercase left.value = Text.lowercase right.value :=
      congrArg Ident.value lowered
    have quote' : right.quote = none := quotes.symm.trans quote
    simp only [quote', values]
  | some mark =>
    have quote' : right.quote = some mark := quotes.symm.trans quote
    have same : left = right := by simpa [Ident.quotedOnly, quote, quote'] using quoted
    rw [same, quote']

theorem isFlagged_congr (left right : Call) (lowered : left.rename lowering = right.rename lowering)
    (quoted : left.rename quotedCalls = right.rename quotedCalls) :
    isFlagged left = isFlagged right := by
  have names {change : Renaming} (same : left.rename change = right.rename change) :
      left.name.idents.map change.call = right.name.idents.map change.call := by
    rw [← idents_rename, ← idents_rename]
    cases left
    cases right
    exact congrArg (fun made : Call => made.name.idents) same
  have matched : left.name.idents.map isNamed = right.name.idents.map isNamed :=
    map_of_maps_eq isNamed_congr (names lowered) (names quoted)
  have any (made : Call) : isFlagged made = (made.name.idents.map isNamed).any id := by
    rw [isFlagged, List.any_map]
    rfl
  rw [any, any, matched]

theorem nodeMessages_congr (left right : Node)
    (lowered : left.rename lowering = right.rename lowering)
    (quoted : left.rename quotedCalls = right.rename quotedCalls) :
    nodeMessages left = nodeMessages right := by
  cases left with
  | call made =>
    cases right with
    | call other =>
      have flagged := isFlagged_congr made other (Node.call.inj lowered) (Node.call.inj quoted)
      rw [nodeMessages, nodeMessages, flagged]
    | _ => cases lowered
  | _ =>
    cases right with
    | call other => cases lowered
    | _ => rfl

theorem messages_congr {first second : Statement} (same : first.SameButCase second)
    (quoted : first.SameQuotedCalls second) : messages first = messages second := by
  have read : (first.walk depthLimit).map nodeMessages =
      (second.walk depthLimit).map nodeMessages :=
    map_of_maps_eq nodeMessages_congr (Statement.map_walk_of_rename_eq same depthLimit)
      (Statement.map_walk_of_rename_eq quoted depthLimit)
  rw [messages, messages, List.flatMap_def, List.flatMap_def, read]

end Rule.RegexpContains

namespace Rule.SharedCte

theorem splitBy_lowered (idents : List Ident) :
    (idents.map Ident.lowered).splitBy sameToken =
      (idents.splitBy sameToken).map (·.map Ident.lowered) := by
  rw [List.splitBy_eq_iff]
  refine ⟨?_, ?_, ?_, ?_⟩
  · rw [← List.map_flatten, List.flatten_splitBy]
  · intro member
    obtain ⟨group, present, empty⟩ := List.mem_map.mp member
    exact List.nil_notMem_splitBy sameToken idents (List.map_eq_nil_iff.mp empty ▸ present)
  · intro lowered member
    obtain ⟨group, present, rfl⟩ := List.mem_map.mp member
    rw [List.isChain_map]
    exact List.isChain_of_mem_splitBy present
  · rw [List.isChain_map]
    refine (List.isChain_getLast_head_splitBy sameToken idents).imp ?_
    intro left right apart
    obtain ⟨leftSome, rightSome, apart⟩ := apart
    refine ⟨by simpa using leftSome, by simpa using rightSome, ?_⟩
    rw [List.getLast_map, List.head_map]
    exact apart

/-- The components of a name in which each identifier stands as it is. -/
def joined (name : ObjectName) : List String :=
  (name.idents.splitBy sameToken).map fun group => ".".intercalate (group.map Ident.value)

/-- The components of a name are told by its lower-case form. -/
theorem components_eq_joined (name : ObjectName) :
    components name = joined (ObjectName.rename Ident.lowered name) := by
  rw [components, joined, idents_rename, splitBy_lowered, List.map_map]
  apply List.map_congr_left
  intro group _
  rw [Function.comp_apply, List.map_map]
  rfl

theorem components_congr {left right : ObjectName}
    (same : ObjectName.rename Ident.lowered left = ObjectName.rename Ident.lowered right) :
    components left = components right := by
  rw [components_eq_joined, components_eq_joined, same]

theorem singleTable?_rename (names : Renaming) (query : Query) :
    singleTable? (query.rename names) =
      (singleTable? query).map (ObjectName.rename names.table) := by
  obtain ⟨withClause, body, orderBy, held⟩ := query
  cases body with
  | select block =>
    obtain ⟨distinct, projection, tables, selection, groupBy, having, qualify, aside⟩ := block
    match tables with
    | [] => rfl
    | [⟨relation, []⟩] => cases relation <;> rfl
    | [⟨relation, ⟨_, _, _, _⟩ :: joins⟩] => cases relation <;> rfl
    | ⟨relation, []⟩ :: table :: rest => cases relation <;> rfl
    | ⟨relation, ⟨_, _, _, _⟩ :: joins⟩ :: table :: rest => cases relation <;> rfl
  | _ => rfl

theorem tableNames_rename (names : Renaming) (nodes : List Node) :
    tableNames (nodes.map (Node.rename names)) =
      (tableNames nodes).map (ObjectName.rename names.table) := by
  unfold tableNames
  rw [List.filterMap_map, List.map_filterMap]
  apply List.filterMap_congr
  intro node _
  cases node <;> rfl

/-- An entry is read for its name, and for the table it reads, in lower case. -/
theorem declare_of_rename_eq (state : State) (left right : Cte)
    (same : left.rename lowering = right.rename lowering) :
    state.declare left = state.declare right := by
  have named : Text.lowercase left.name.value = Text.lowercase right.name.value :=
    congrArg (fun cte => cte.name.value) same
  have read : (singleTable? left.query).map (ObjectName.rename Ident.lowered) =
      (singleTable? right.query).map (ObjectName.rename Ident.lowered) := by
    have queries : left.query.rename lowering = right.query.rename lowering :=
      congrArg Cte.query same
    have read (query : Query) := singleTable?_rename lowering query
    exact (read left.query).symm.trans ((congrArg singleTable? queries).trans (read right.query))
  unfold State.declare
  rw [named]
  cases table : singleTable? left.query with
  | none =>
    have table' : singleTable? right.query = none := by simpa [table] using read.symm
    simp only [table']
  | some name =>
    rw [table] at read
    obtain ⟨name', table', names⟩ := Option.map_eq_some_iff.mp read.symm
    simp only [table', components_congr names]

theorem visit_of_rename_eq (state : State) (left right : ObjectName)
    (same : ObjectName.rename Ident.lowered left = ObjectName.rename Ident.lowered right) :
    state.visit left = state.visit right := by
  rw [State.visit, State.visit, components_congr same]

theorem queryNotices_congr {first second : Query}
    (same : first.rename lowering = second.rename lowering) :
    queryNotices first = queryNotices second := by
  have entries := congrArg Query.withClause same
  rw [Query.withClause_rename, Query.withClause_rename] at entries
  have tables : (tableNames (first.walkBody depthLimit 0)).map (ObjectName.rename Ident.lowered) =
      (tableNames (second.walkBody depthLimit 0)).map (ObjectName.rename Ident.lowered) := by
    have walked (query : Query) : tableNames ((query.rename lowering).walkBody depthLimit 0) =
        (tableNames (query.walkBody depthLimit 0)).map (ObjectName.rename Ident.lowered) := by
      rw [Query.walkBody_rename lowering depthLimit query 0 (by decide), tableNames_rename]
      rfl
    rw [← walked, ← walked, same]
  unfold queryNotices
  cases declared : first.withClause with
  | none =>
    have declared' : second.withClause = none := by simpa [declared] using entries.symm
    rw [declared']
  | some ctes =>
    rw [declared] at entries
    obtain ⟨others, declared', renamed⟩ := Option.map_eq_some_iff.mp entries.symm
    simp only [declared', foldl_of_map_eq declare_of_rename_eq renamed,
      foldl_of_map_eq visit_of_rename_eq tables]

theorem messages_congr {first second : Statement} (same : first.SameButCase second) :
    messages first = messages second := by
  have queries := congrArg Statement.query? same
  rw [Statement.query?_rename, Statement.query?_rename] at queries
  unfold messages notices
  cases carried : first.query? with
  | none =>
    have carried' : second.query? = none := by simpa [carried] using queries.symm
    rw [carried']
  | some query =>
    rw [carried] at queries
    obtain ⟨other, carried', renamed⟩ := Option.map_eq_some_iff.mp queries.symm
    simp only [carried', queryNotices_congr renamed.symm]

end Rule.SharedCte

namespace Detector

open Rule.InSubquery Rule.SharedCte

/-- Statements that differ only in the case of letters have the same messages. For calls this takes
that the quoted parts of their names agree. -/
theorem messages_of_sameButCase (first second : Statement) (same : first.SameButCase second) :
    sharedCte.messages first = sharedCte.messages second ∧
      inSubquery.messages first = inSubquery.messages second ∧
      (first.SameQuotedCalls second →
        regexpContains.messages first = regexpContains.messages second) := by
  refine ⟨Rule.SharedCte.messages_congr same, ?_, ?_⟩
  · show Rule.InSubquery.messages first = Rule.InSubquery.messages second
    rw [← Rule.InSubquery.messages_rename lowering first, same,
      Rule.InSubquery.messages_rename lowering second]
  · exact Rule.RegexpContains.messages_congr same

/-- A query that declares a table expression over a base table, reads it twice, tests membership and
calls a function. The name of the function has a quoted part. -/
def readingTwice (declared base read again called quoted : String) : Statement :=
  let name value := NamePart.ident (bareName value)
  let made : Call := ⟨[.ident ⟨quoted, some '"', Span.empty⟩, name called], .absent, .absent, none,
    [], .absent, []⟩
  .query ⟨some [⟨bareName declared, readingFrom [base]⟩],
    .select ⟨.absent, [.expr (.call made)],
      [⟨.table [name read] [], []⟩, ⟨.table [name again] [], []⟩], some (testing none), .keys [],
      none, none, []⟩, [], []⟩

theorem readingTwice_lowered (declared base read again called quoted : String) :
    (readingTwice declared base read again called quoted).rename lowering =
      readingTwice (Text.lowercase declared) (Text.lowercase base) (Text.lowercase read)
        (Text.lowercase again) (Text.lowercase called) (Text.lowercase quoted) := rfl

theorem messages_of_sameButCase_readingTwice :
    let first := readingTwice "Shared" "Base" "SHARED" "shared" "Regexp_Contains" "Text"
    let second := readingTwice "shared" "Base" "Shared" "SHARED" "REGEXP_CONTAINS" "Text"
    first.SameButCase second ∧ first.SameQuotedCalls second ∧
      sharedCte.messages first = sharedCte.messages second ∧
      inSubquery.messages first = inSubquery.messages second ∧
      regexpContains.messages first = regexpContains.messages second ∧
      all.map (fun detector => (detector.messages second).length) = [1, 1, 1] := by
  intro first second
  have same : first.SameButCase second := by
    have names : Text.lowercase "Shared" = Text.lowercase "SHARED" ∧
        Text.lowercase "SHARED" = Text.lowercase "shared" ∧
        Text.lowercase "Regexp_Contains" = Text.lowercase "REGEXP_CONTAINS" := by decide +kernel
    unfold Statement.SameButCase
    rw [readingTwice_lowered, readingTwice_lowered]
    simp only [names]
  have quoted : first.SameQuotedCalls second := rfl
  obtain ⟨shared, tested, called⟩ := messages_of_sameButCase first second same
  exact ⟨same, quoted, shared, tested, called quoted, by decide +kernel⟩

end Detector

end QueryLint
