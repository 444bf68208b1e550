import QueryLint.Sql.Name

/-!
Syntax trees of SQL queries.

A tree holds what the detectors can see and all the expressions of a query. Forms of expression that
differ only in the words around their operands share a constructor and are told apart by a form; an
expression without operands keeps only its kind.

Expressions also stand in clauses that are never walked. A node keeps those of all its clauses of
this kind in one list, `aside`, and not the clauses themselves:
* of a query, `LIMIT`, `OFFSET`, `FETCH`, `SETTINGS`, `INTERPOLATE` and pipe operators, and the
  types of the columns that its common table expressions name;
* of a `SELECT`, `TOP`, `PREWHERE`, lateral views, `CONNECT BY`, `CLUSTER BY`, `DISTRIBUTE BY`,
  `SORT BY`, named windows, modifiers of `GROUP BY` and the value before a `.*`;
* of a call, the bounds of a window frame and the argument clauses other than `ORDER BY` and
  `LIMIT`;
* of a relation, the arguments, sample, version and hints of a table, the aggregates of a `PIVOT`,
  the measures of a `MATCH_RECOGNIZE`, and all that other kinds of relation hold;
* of an expression, the operands of the forms that are not told apart here, the keys of a path into
  a JSON value, and the options of a type;
* of sort keys, the bounds of a `WITH FILL`; of names, the arguments of a part that is computed.
The keys of a `DISTINCT ON` and the `MATCH_CONDITION` of a join are never walked either, but have
fields of their own. Words, literals, types and aliases that hold no expression are left out.
-/

namespace QueryLint.Sql

/-- Expressions around one operand. -/
inductive UnaryForm
  | operator
  | cast
  | parentheses
  | extract
  | ceil
  | floor
  | isNull
  | isNotNull
  | isFalse
  | isNotFalse
  | isTrue
  | isNotTrue
  | isUnknown
  | isNotUnknown
  | collate
  | named
  | prefixed
  | outerJoin
  | prior
  | jsonAccess
  | interval
  | lambda
deriving DecidableEq, Repr

/-- Expressions that join two operands. -/
inductive BinaryForm
  | operator
  | anyOperator
  | allOperator
  | isDistinctFrom
  | isNotDistinctFrom
  | like
  | iLike
  | similarTo
  | rLike
  | position
  | atTimeZone
  | inUnnest
deriving DecidableEq, Repr

/-- Values written as a list of values. -/
inductive RowForm
  | tuple
  | struct
  | array
deriving DecidableEq, Repr

inductive GroupingForm
  | sets
  | cube
  | rollup
deriving DecidableEq, Repr

mutual

inductive Expr
  | atom (kind : String) (aside : List Expr)
  | call (call : Call)
  | unary (form : UnaryForm) (operand : Expr) (aside : List Expr)
  | binary (form : BinaryForm) (left right : Expr)
  | between (operand low high : Expr)
  | substring (operand : Expr) (start count : Option Expr)
  | trim (operand : Expr) (what : Option Expr) (characters : List Expr)
  | overlay (operand what start : Expr) (count : Option Expr)
  | convert (operand : Expr) (styles aside : List Expr)
  | choice (operand : Option Expr) (arms : List (Expr × Expr)) (otherwise : Option Expr)
  | access (root : Expr) (chain : List Access)
  | map (entries : List (Expr × Expr))
  | row (form : RowForm) (items aside : List Expr)
  | grouping (form : GroupingForm) (sets : List (List Expr))
  | inList (operand : Expr) (items : List Expr)
  | inSubquery (operand : Expr) (query : Query)
  | subquery (query : Query)
  | existsIn (query : Query)

/-- A step into a value: a field, an index or a slice. -/
inductive Access
  | field (expr : Expr)
  | index (expr : Expr)
  | slice (lower upper stride : Option Expr)

structure Call where
  name : ObjectName
  parameters : Arguments
  arguments : Arguments
  filter : Option Expr
  withinGroup : List Expr
  window : Window
  aside : List Expr

inductive Arguments
  | absent
  | subquery (query : Query)
  | list (arguments : List Argument) (clauses : List ArgumentClause)

/-- An argument has no value if it is a wildcard. A label that is a plain name is not kept. -/
inductive Argument
  | plain (value : Option Expr)
  | labelled (label : Expr) (value : Option Expr)

inductive ArgumentClause
  | orderBy (keys : List Expr)
  | limit (count : Expr)
  | other

inductive Window
  | absent
  | named
  | spec (partitionBy orderBy : List Expr)

structure Query where
  withClause : Option (List Cte)
  body : Body
  orderBy : List Expr
  aside : List Expr

/-- A query that a `WITH` clause gives a name to. -/
structure Cte where
  name : Ident
  query : Query

inductive Body
  | select (select : Select)
  | nested (query : Query)
  | setOperation (left right : Body)
  | values (rows : List (List Expr))
  | other (aside : List Expr)

structure Select where
  distinct : Distinct
  projection : List SelectItem
  tables : List TableRef
  selection : Option Expr
  groupBy : GroupBy
  having : Option Expr
  qualify : Option Expr
  aside : List Expr

inductive Distinct
  | absent
  | rows
  | keys (keys : List Expr)

inductive SelectItem
  | expr (expr : Expr)
  | wildcard (replacements : List Expr)

inductive GroupBy
  | all
  | keys (keys : List Expr)

/-- A relation with what is joined to it. -/
structure TableRef where
  relation : Factor
  joins : List Join

/-- A joined relation, with the `MATCH_CONDITION` of an `ASOF` join and the `ON` condition. -/
structure Join where
  relation : Factor
  matching : Option Expr
  condition : Option Expr
  aside : List Expr

inductive Factor
  | table (name : ObjectName) (aside : List Expr)
  | derived (query : Query) (aside : List Expr)
  | nestedJoin (table : TableRef) (aside : List Expr)
  | unnest (arrays aside : List Expr)
  | tableFunction (expr : Expr) (aside : List Expr)
  | reshaped (relation : Factor) (aside : List Expr)
  | other (aside : List Expr)

end

def UnaryForm.kind : UnaryForm → String
  | operator => "UnaryOp"
  | cast => "Cast"
  | parentheses => "Nested"
  | extract => "Extract"
  | ceil => "Ceil"
  | floor => "Floor"
  | isNull => "IsNull"
  | isNotNull => "IsNotNull"
  | isFalse => "IsFalse"
  | isNotFalse => "IsNotFalse"
  | isTrue => "IsTrue"
  | isNotTrue => "IsNotTrue"
  | isUnknown => "IsUnknown"
  | isNotUnknown => "IsNotUnknown"
  | collate => "Collate"
  | named => "Named"
  | prefixed => "Prefixed"
  | outerJoin => "OuterJoin"
  | prior => "Prior"
  | jsonAccess => "JsonAccess"
  | interval => "Interval"
  | lambda => "Lambda"

def BinaryForm.kind : BinaryForm → String
  | operator => "BinaryOp"
  | anyOperator => "AnyOp"
  | allOperator => "AllOp"
  | isDistinctFrom => "IsDistinctFrom"
  | isNotDistinctFrom => "IsNotDistinctFrom"
  | like => "Like"
  | iLike => "ILike"
  | similarTo => "SimilarTo"
  | rLike => "RLike"
  | position => "Position"
  | atTimeZone => "AtTimeZone"
  | inUnnest => "InUnnest"

def RowForm.kind : RowForm → String
  | tuple => "Tuple"
  | struct => "Struct"
  | array => "Array"

def GroupingForm.kind : GroupingForm → String
  | sets => "GroupingSets"
  | cube => "Cube"
  | rollup => "Rollup"

/-- The name of an expression's outermost form. -/
def Expr.kind : Expr → String
  | .atom kind _ => kind
  | .call _ => "Function"
  | .unary form _ _ => form.kind
  | .binary form _ _ => form.kind
  | .between _ _ _ => "Between"
  | .substring _ _ _ => "Substring"
  | .trim _ _ _ => "Trim"
  | .overlay _ _ _ _ => "Overlay"
  | .convert _ _ _ => "Convert"
  | .choice _ _ _ => "Case"
  | .access _ _ => "CompoundFieldAccess"
  | .map _ => "Map"
  | .row form _ _ => form.kind
  | .grouping form _ => form.kind
  | .inList _ _ => "InList"
  | .inSubquery _ _ => "InSubquery"
  | .subquery _ => "Subquery"
  | .existsIn _ => "Exists"

end QueryLint.Sql
