import QueryLint.Json.Basic
import QueryLint.Sql.Statement

/-!
Syntax trees as JSON documents, which is how a parser hands them over.

A node with alternatives is a string or an object with one field, both named for the alternative.
A document holds more than a tree does. Fields and alternatives that are not mentioned here are
searched for calls, and these are all that a tree holds aside: what else stands in them is passed
over. The budget of the recursive readers is the nesting depth of the document, which every call
goes one level down in.
-/

namespace QueryLint.Sql.Document

/-- The name of an alternative and what it holds. -/
def alternative : Json → String × Json
  | .string name => (name, .null)
  | .object ((name, payload) :: _) => (name, payload)
  | _ => ("", .null)

/-- What an alternative holds, if it is the one of the given name. -/
def chosen? (name : String) (value : Json) : Option Json :=
  let (found, payload) := alternative value
  if found = name then some payload else none

def span (value : Json) : Span :=
  let place (name : String) : Json := value.get name
  ⟨((place "start").get "line").natural, ((place "start").get "column").natural,
    ((place "end").get "line").natural, ((place "end").get "column").natural⟩

def ident (value : Json) : Ident :=
  ⟨(value.get "value").text, (value.get "quote_style").text.toList.head?,
    span (value.get "span")⟩

def namePart (value : Json) : NamePart :=
  match chosen? "Identifier" value with
  | some payload => .ident (ident payload)
  | none => .computed

def objectName (value : Json) : ObjectName := value.items.map namePart

/-- The forms around one operand, each with the field that holds it; no field means that the
operand is all there is. -/
def unaryForms : List (UnaryForm × Option String) :=
  [(.operator, "expr"), (.cast, "expr"), (.parentheses, none), (.extract, "expr"),
   (.ceil, "expr"), (.floor, "expr"), (.isNull, none), (.isNotNull, none), (.isFalse, none),
   (.isNotFalse, none), (.isTrue, none), (.isNotTrue, none), (.isUnknown, none),
   (.isNotUnknown, none), (.collate, "expr"), (.named, "expr"), (.prefixed, "value"),
   (.outerJoin, none), (.prior, none), (.jsonAccess, "value"), (.interval, "value"),
   (.lambda, "body")]

/-- The forms that join two operands, each with the fields that hold them; no fields mean that the
operands are a pair. -/
def binaryForms : List (BinaryForm × Option (String × String)) :=
  [(.operator, some ("left", "right")), (.anyOperator, some ("left", "right")),
   (.allOperator, some ("left", "right")), (.isDistinctFrom, none), (.isNotDistinctFrom, none),
   (.like, some ("expr", "pattern")), (.iLike, some ("expr", "pattern")),
   (.similarTo, some ("expr", "pattern")), (.rLike, some ("expr", "pattern")),
   (.position, some ("expr", "in")), (.atTimeZone, some ("timestamp", "time_zone")),
   (.inUnnest, some ("expr", "array_expr"))]

/-- An object without some of its fields. -/
def besides (names : List String) : Json → Json
  | .object fields => .object (fields.filter fun field => field.1 ∉ names)
  | value => value

/-- Whether a value is a call. Other things are named for functions too, but have no parameters. -/
def isCall (value : Json) : Bool :=
  ((chosen? "Function" value).bind (·.get? "parameters")).isSome

section
variable (expr : Json → Expr) (query : Json → Query)

mutual

/-- The outermost calls in a value, wherever they stand in it. -/
def callsIn : Json → List Expr
  | .array items => callsInItems items
  | .object fields =>
    if isCall (.object fields) then [expr (.object fields)] else callsInFields fields
  | _ => []

def callsInItems : List Json → List Expr
  | [] => []
  | item :: rest => callsIn item ++ callsInItems rest

def callsInFields : List (String × Json) → List Expr
  | [] => []
  | (_, value) :: rest => callsIn value ++ callsInFields rest

end

/-- The outermost calls in the members of a list, besides those in some of their fields. -/
def callsBesides (names : List String) (value : Json) : List Expr :=
  value.items.flatMap fun item => callsIn expr (besides names item)

def unary? (kind : String) (payload : Json) : Option Expr := do
  let (form, field) ← unaryForms.find? (·.1.kind == kind)
  match field with
  | some field =>
    return .unary form (expr (payload.get field)) (callsIn expr (besides [field] payload))
  | none => return .unary form (expr payload) []

def binary? (kind : String) (payload : Json) : Option Expr := do
  let (form, fields) ← binaryForms.find? (·.1.kind == kind)
  match fields, payload with
  | some (left, right), _ =>
    return .binary form (expr (payload.get left)) (expr (payload.get right))
  | none, .array [left, right] => return .binary form (expr left) (expr right)
  | none, _ => none

def exprs (value : Json) : List Expr := value.items.map expr

def rows (value : Json) : List (List Expr) := value.items.map (exprs expr)

/-- Sort keys; the direction of a key is not kept. -/
def sortKeys (value : Json) : List Expr := value.items.map fun key => expr (key.get "expr")

def pairs (first second : String) (value : Json) : List (Expr × Expr) :=
  value.items.map fun entry => (expr (entry.get first), expr (entry.get second))

def field? (value : Json) (name : String) : Option Expr := (value.get? name).map expr

def access (value : Json) : Access :=
  match alternative value with
  | ("Dot", payload) => .field (expr payload)
  | (_, payload) =>
    match alternative payload with
    | ("Index", index) => .index (expr (index.get "index"))
    | (_, slice) =>
      .slice (field? expr slice "lower_bound") (field? expr slice "upper_bound")
        (field? expr slice "stride")

def argumentValue (value : Json) : Option Expr := (chosen? "Expr" value).map expr

def argument (value : Json) : Argument :=
  match alternative value with
  | ("Unnamed", payload) => .plain (argumentValue expr payload)
  | ("ExprNamed", payload) =>
    .labelled (expr (payload.get "name")) (argumentValue expr (payload.get "arg"))
  | (_, payload) => .plain (argumentValue expr (payload.get "arg"))

/-- What an argument holds aside: all of it, unless its value is an expression. -/
def argumentAside (value : Json) : List Expr :=
  let (kind, payload) := alternative value
  let held := if kind = "Unnamed" then payload else payload.get "arg"
  if (chosen? "Expr" held).isSome then [] else callsIn expr held

def argumentClause (value : Json) : ArgumentClause :=
  match alternative value with
  | ("OrderBy", keys) => .orderBy (sortKeys expr keys)
  | ("Limit", count) => .limit (expr count)
  | _ => .other

def argumentClauseAside (value : Json) : List Expr :=
  match alternative value with
  | ("OrderBy", keys) => callsBesides expr ["expr"] keys
  | ("Limit", _) => []
  | (_, payload) => callsIn expr payload

def arguments (value : Json) : Arguments :=
  match alternative value with
  | ("Subquery", payload) => .subquery (query payload)
  | ("List", payload) =>
    .list ((payload.get "args").items.map (argument expr))
      ((payload.get "clauses").items.map (argumentClause expr))
  | _ => .absent

def argumentsAside (value : Json) : List Expr :=
  match chosen? "List" value with
  | some payload =>
    (payload.get "args").items.flatMap (argumentAside expr) ++
      (payload.get "clauses").items.flatMap (argumentClauseAside expr)
  | none => []

def window (value : Json) : Window :=
  match alternative value with
  | ("WindowSpec", spec) =>
    .spec (exprs expr (spec.get "partition_by")) (sortKeys expr (spec.get "order_by"))
  | ("NamedWindow", _) => .named
  | _ => .absent

def windowAside (value : Json) : List Expr :=
  match chosen? "WindowSpec" value with
  | some spec =>
    callsBesides expr ["expr"] (spec.get "order_by") ++
      callsIn expr (besides ["partition_by", "order_by"] spec)
  | none => []

def call (value : Json) : Call where
  name := objectName (value.get "name")
  parameters := arguments expr query (value.get "parameters")
  arguments := arguments expr query (value.get "args")
  filter := field? expr value "filter"
  withinGroup := sortKeys expr (value.get "within_group")
  window := window expr (value.get "over")
  aside :=
    callsIn expr (value.get "name") ++ argumentsAside expr (value.get "parameters") ++
      argumentsAside expr (value.get "args") ++
      callsBesides expr ["expr"] (value.get "within_group") ++ windowAside expr (value.get "over")

def cte (value : Json) : Cte :=
  ⟨ident ((value.get "alias").get "name"), query (value.get "query")⟩

def distinct (value : Json) : Distinct :=
  match alternative value with
  | ("Distinct", _) => .rows
  | ("On", keys) => .keys (exprs expr keys)
  | _ => .absent

def groupBy (value : Json) : GroupBy :=
  match alternative value with
  | ("Expressions", .array (keys :: _)) => .keys (exprs expr keys)
  | _ => .all

def groupByAside (value : Json) : List Expr :=
  match alternative value with
  | ("Expressions", .array (_ :: modifiers)) => callsIn expr (.array modifiers)
  | (_, modifiers) => callsIn expr modifiers

/-- The expressions that replace columns of a wildcard. -/
def replacements (value : Json) : List Expr :=
  sortKeys expr ((value.get "opt_replace").get "items")

def selectItem (value : Json) : SelectItem :=
  match alternative value with
  | ("UnnamedExpr", payload) => .expr (expr payload)
  | ("ExprWithAlias", payload) => .expr (expr (payload.get "expr"))
  | ("QualifiedWildcard", .array [_, options]) => .wildcard (replacements expr options)
  | (_, options) => .wildcard (replacements expr options)

/-- The calls in the value that a wildcard takes the fields of. -/
def selectItemAside (value : Json) : List Expr :=
  match alternative value with
  | ("QualifiedWildcard", .array (qualifier :: _)) => callsIn expr qualifier
  | _ => []

variable (factor : Json → Factor)

/-- The match condition and the constraint of a join. -/
def conditions (value : Json) : Option Expr × Json :=
  match alternative value with
  | ("AsOf", payload) => (field? expr payload "match_condition", payload.get "constraint")
  | (_, constraint) => (none, constraint)

def join (value : Json) : Join :=
  let (matching, constraint) := conditions expr (value.get "join_operator")
  let relation := factor (value.get "relation")
  match chosen? "On" constraint with
  | some condition => ⟨relation, matching, some (expr condition), []⟩
  | none => ⟨relation, matching, none, callsIn expr constraint⟩

def tableRef (value : Json) : TableRef :=
  ⟨factor (value.get "relation"), (value.get "joins").items.map (join expr factor)⟩

def tableRefs (value : Json) : List TableRef := value.items.map (tableRef expr factor)

def select (value : Json) : Select where
  distinct := distinct expr (value.get "distinct")
  projection := (value.get "projection").items.map (selectItem expr)
  tables := tableRefs expr factor (value.get "from")
  selection := field? expr value "selection"
  groupBy := groupBy expr (value.get "group_by")
  having := field? expr value "having"
  qualify := field? expr value "qualify"
  aside :=
    (value.get "projection").items.flatMap (selectItemAside expr) ++
      groupByAside expr (value.get "group_by") ++
      callsIn expr (besides
        ["distinct", "projection", "from", "selection", "group_by", "having", "qualify"] value)

end

mutual

def expr : Nat → Json → Expr
  | 0, _ => .atom "" []
  | budget + 1, value =>
    let inner := expr budget
    match alternative value with
    | ("Function", payload) => .call (call inner (query budget) payload)
    | ("Between", payload) =>
      .between (inner (payload.get "expr")) (inner (payload.get "low")) (inner (payload.get "high"))
    | ("Substring", payload) =>
      .substring (inner (payload.get "expr")) (field? inner payload "substring_from")
        (field? inner payload "substring_for")
    | ("Trim", payload) =>
      .trim (inner (payload.get "expr")) (field? inner payload "trim_what")
        (exprs inner (payload.get "trim_characters"))
    | ("Overlay", payload) =>
      .overlay (inner (payload.get "expr")) (inner (payload.get "overlay_what"))
        (inner (payload.get "overlay_from")) (field? inner payload "overlay_for")
    | ("Convert", payload) =>
      .convert (inner (payload.get "expr")) (exprs inner (payload.get "styles"))
        (callsIn inner (besides ["expr", "styles"] payload))
    | ("Case", payload) =>
      .choice (field? inner payload "operand")
        (pairs inner "condition" "result" (payload.get "conditions"))
        (field? inner payload "else_result")
    | ("CompoundFieldAccess", payload) =>
      .access (inner (payload.get "root"))
        ((payload.get "access_chain").items.map (access inner))
    | ("Map", payload) => .map (pairs inner "key" "value" (payload.get "entries"))
    | ("Tuple", payload) => .row .tuple (exprs inner payload) []
    | ("Struct", payload) =>
      .row .struct (exprs inner (payload.get "values"))
        (callsIn inner (besides ["values"] payload))
    | ("Array", payload) => .row .array (exprs inner (payload.get "elem")) []
    | ("GroupingSets", payload) => .grouping .sets (rows inner payload)
    | ("Cube", payload) => .grouping .cube (rows inner payload)
    | ("Rollup", payload) => .grouping .rollup (rows inner payload)
    | ("InList", payload) =>
      .inList (inner (payload.get "expr")) (exprs inner (payload.get "list"))
    | ("InSubquery", payload) =>
      .inSubquery (inner (payload.get "expr")) (query budget (payload.get "subquery"))
    | ("Subquery", payload) => .subquery (query budget payload)
    | ("Exists", payload) => .existsIn (query budget (payload.get "subquery"))
    | (kind, payload) =>
      match unary? inner kind payload with
      | some found => found
      | none => (binary? inner kind payload).getD (.atom kind (callsIn inner payload))

def query : Nat → Json → Query
  | 0, _ => ⟨none, .other [], [], []⟩
  | budget + 1, value =>
    let inner := expr budget
    let order := value.get "order_by"
    let keys := (chosen? "Expressions" (order.get "kind")).getD .null
    ⟨(value.get? "with").map fun clause =>
        (clause.get "cte_tables").items.map (cte (query budget)),
      body budget (value.get "body"), sortKeys inner keys,
      callsBesides inner ["query"] ((value.get "with").get "cte_tables") ++
        callsBesides inner ["expr"] keys ++ callsIn inner (besides ["kind"] order) ++
        callsIn inner (besides ["with", "body", "order_by"] value)⟩

def body : Nat → Json → Body
  | 0, _ => .other []
  | budget + 1, value =>
    match alternative value with
    | ("Select", payload) => .select (select (expr budget) (factor budget) payload)
    | ("Query", payload) => .nested (query budget payload)
    | ("SetOperation", payload) =>
      .setOperation (body budget (payload.get "left")) (body budget (payload.get "right"))
    | ("Values", payload) => .values (rows (expr budget) (payload.get "rows"))
    | (_, payload) => .other (callsIn (expr budget) payload)

def factor : Nat → Json → Factor
  | 0, _ => .other []
  | budget + 1, value =>
    let inner := expr budget
    let (kind, payload) := alternative value
    let aside (names : List String) : List Expr := callsIn inner (besides names payload)
    match kind with
    | "Table" => .table (objectName (payload.get "name")) (aside [])
    | "Derived" => .derived (query budget (payload.get "subquery")) (aside ["subquery"])
    | "NestedJoin" =>
      .nestedJoin (tableRef inner (factor budget) (payload.get "table_with_joins"))
        (aside ["table_with_joins"])
    | "UNNEST" => .unnest (exprs inner (payload.get "array_exprs")) (aside ["array_exprs"])
    | "TableFunction" => .tableFunction (inner (payload.get "expr")) (aside ["expr"])
    | "Pivot" => .reshaped (factor budget (payload.get "table")) (aside ["table"])
    | "Unpivot" => .reshaped (factor budget (payload.get "table")) (aside ["table"])
    | "MatchRecognize" => .reshaped (factor budget (payload.get "table")) (aside ["table"])
    | _ => .other (aside [])

end

/-- The values that assignments give. -/
def assigned (expr : Json → Expr) (value : Json) : List Expr :=
  value.items.map fun assignment => expr (assignment.get "value")

def mergeAction (expr : Json → Expr) (value : Json) : MergeAction :=
  match alternative value with
  | ("Update", payload) => .update (assigned expr (payload.get "assignments"))
  | ("Insert", payload) =>
    match chosen? "Values" (payload.get "kind") with
    | some values => .insertRows (rows expr (values.get "rows"))
    | none => .other
  | _ => .other

def mergeClause (expr : Json → Expr) (value : Json) : MergeClause :=
  ⟨field? expr value "predicate", mergeAction expr (value.get "action")⟩

/-- The calls in the columns that assignments are made to. -/
def assignedAside (expr : Json → Expr) (value : Json) : List Expr :=
  callsBesides expr ["value"] (value.get "assignments")

/-- The tree that a document holds. -/
def statement (value : Json) : Statement :=
  let budget := value.depth + 1
  let expr := expr budget
  let query := query budget
  let tables := tableRefs expr (factor budget)
  match alternative value with
  | ("Query", payload) => .query (query payload)
  | ("Insert", payload) =>
    .insert ((payload.get? "source").map query) (callsIn expr (besides ["source"] payload))
  | ("CreateView", payload) => .createView (query (payload.get "query"))
  | ("CreateTable", payload) => .createTable ((payload.get? "query").map query)
  | ("Update", payload) =>
    .update (tableRef expr (factor budget) (payload.get "table"))
      (assigned expr (payload.get "assignments"))
      (tables (alternative (payload.get "from")).2) (field? expr payload "selection")
      (assignedAside expr payload ++
        callsIn expr (besides ["table", "assignments", "from", "selection"] payload))
  | ("Delete", payload) =>
    .delete (tables (alternative (payload.get "from")).2) (tables (payload.get "using"))
      (field? expr payload "selection")
      (callsIn expr (besides ["from", "using", "selection"] payload))
  | ("Merge", payload) =>
    let clauses := (payload.get "clauses").items
    .merge (factor budget (payload.get "table")) (factor budget (payload.get "source"))
      (expr (payload.get "on")) (clauses.map (mergeClause expr))
      (clauses.flatMap (fun clause =>
          assignedAside expr (alternative (clause.get "action")).2) ++
        callsIn expr (besides ["table", "source", "on", "clauses"] payload))
  | (kind, _) => .other kind

end QueryLint.Sql.Document
