import QueryLint.Sql.Statement
import QueryLint.Text.Case

/-!
Common table expressions that are read more than once, and so evaluated more than once.

References are counted in two passes over a statement. The first goes through the `WITH` clause:
each entry declares its alias and then, if it reads a single table and nothing else, counts that
table's name; after each such entry every alias read more than once so far is noticed. The second
goes through the table names of the main query; after each, the aliases that it named are noticed
if they have been read more than once.
-/

namespace QueryLint.Rule.SharedCte

open Sql

/-- Reference counts by lower-cased alias, in the order of first declaration. -/
abbrev AliasCounts := List (String × Nat)

namespace AliasCounts

def keys (counts : AliasCounts) : List String := counts.map (·.1)

def position? (counts : AliasCounts) (name : String) : Option Nat :=
  counts.findIdx? (·.1 == name)

/-- Starts an alias at zero. One declared before keeps its place. -/
def register (counts : AliasCounts) (name : String) : AliasCounts :=
  match counts.position? name with
  | some position => counts.set position (name, 0)
  | none => counts ++ [(name, 0)]

def increment (counts : AliasCounts) (position : Nat) : AliasCounts :=
  counts.modify position fun entry => (entry.1, entry.2 + 1)

/-- Counts one component, and adds its position to those touched before. -/
def scanComponent (state : AliasCounts × List Nat) (component : String) :
    AliasCounts × List Nat :=
  match state.1.position? component with
  | some position =>
    (state.1.increment position,
      if state.2.contains position then state.2 else state.2 ++ [position])
  | none => state

/-- Counts the components that name an alias, and gives the positions counted, without repeats. -/
def scan (counts : AliasCounts) (components : List String) : AliasCounts × List Nat :=
  components.foldl scanComponent (counts, [])

end AliasCounts

/-- The quoted token that an identifier was written in, if it came from one. -/
def token? (ident : Ident) : Option Span :=
  if ident.quote.isSome ∧ ident.span ≠ Span.empty then some ident.span else none

/-- Whether two identifiers were written in one quoted token, as in `project.dataset.table` between
backquotes. -/
def sameToken (left right : Ident) : Bool :=
  (token? left).isSome && token? left == token? right

/-- The lower-cased components of a name. What was quoted as one token is one component. -/
def components (name : ObjectName) : List String :=
  (name.idents.splitBy sameToken).map fun group =>
    ".".intercalate (group.map fun ident => Text.lowercase ident.value)

/-- The only table that a query reads, if it reads one by name and joins nothing to it. -/
def singleTable? (query : Query) : Option ObjectName :=
  match query.body with
  | .select select =>
    match select.tables with
    | [⟨.table name _, []⟩] => some name
    | _ => none
  | _ => none

/-- An alias with the number of times it has been read so far. -/
structure Notice where
  name : String
  count : Nat
deriving DecidableEq, Repr

def Notice.text (notice : Notice) : String :=
  let name := notice.name
  let count := notice.count
  s!"CTE with multiple references: alias {name} is referenced {count} times."

/-- A notice of an alias that has been read more than once. -/
def notice? (entry : String × Nat) : Option Notice :=
  if 1 < entry.2 then some ⟨entry.1, entry.2⟩ else none

def noticeAll (counts : AliasCounts) : List Notice := counts.filterMap notice?

def noticeAt (counts : AliasCounts) (positions : List Nat) : List Notice :=
  positions.filterMap fun position => counts[position]?.bind notice?

/-- What the counts are, and what has been noticed so far. -/
structure State where
  counts : AliasCounts := []
  notices : List Notice := []

/-- One entry of the `WITH` clause. -/
def State.declare (state : State) (cte : Cte) : State :=
  let counts := state.counts.register (Text.lowercase cte.name.value)
  match singleTable? cte.query with
  | some name =>
    let counts := (counts.scan (components name)).1
    ⟨counts, state.notices ++ noticeAll counts⟩
  | none => ⟨counts, state.notices⟩

/-- One table name of the main query. -/
def State.visit (state : State) (name : ObjectName) : State :=
  let (counts, touched) := state.counts.scan (components name)
  ⟨counts, state.notices ++ noticeAt counts touched⟩

/-- The table names among the places of a walk. -/
def tableNames (nodes : List Node) : List ObjectName :=
  nodes.filterMap fun
    | .table name => some name
    | _ => none

def queryNotices (query : Query) : List Notice :=
  match query.withClause with
  | some ctes =>
    let declared := ctes.foldl State.declare {}
    ((tableNames (query.walkBody depthLimit 0)).foldl State.visit declared).notices
  | none => []

def notices (statement : Statement) : List Notice :=
  match statement.query? with
  | some query => queryNotices query
  | none => []

def messages (statement : Statement) : List String := (notices statement).map Notice.text

end QueryLint.Rule.SharedCte
