import Mathlib.Data.List.Infix
import QueryLint.Proofs.SharedCte.Table

/-!
What is noticed about shared common table expressions, without a running count.

A reference to an alias is a component equal to it in a table name that is scanned no earlier than
the latest entry that declares the alias. After each entry that reads a single table every declared
alias with more than one reference is noticed, and after each table name of the main query every
declared alias that it names. The main statement says that the two counting passes give just these
notices, in this order.
-/

namespace QueryLint.Rule.SharedCte

open Sql AliasCounts

/-- The alias that an entry declares, in lower case. -/
def declaredName (cte : Cte) : String := Text.lowercase cte.name.value

/-- The declared aliases, in the order of first declaration. -/
def declaredNames (ctes : List Cte) : List String := (ctes.map declaredName).eraseDups

/-- The names of the tables that entries read, of those entries that read just one. -/
def scannedTables (ctes : List Cte) : List ObjectName :=
  ctes.filterMap fun cte => singleTable? cte.query

/-- The entries from the latest one that declares a name on. -/
def sinceDeclared (name : String) : List Cte → List Cte
  | [] => []
  | cte :: rest =>
    if name ∈ rest.map declaredName then sinceDeclared name rest
    else if declaredName cte = name then cte :: rest
    else []

/-- How many components of some table names are equal to a name. -/
def mentions (tables : List ObjectName) (name : String) : Nat :=
  (tables.flatMap components).count name

/-- The references to an alias once some entries have been declared and some table names of the main
query visited. -/
def references (ctes : List Cte) (visited : List ObjectName) (name : String) : Nat :=
  mentions (scannedTables (sinceDeclared name ctes) ++ visited) name

/-- What is noticed after the last of some entries. -/
def noticesAfterEntry (ctes : List Cte) : List Notice :=
  if (ctes.getLast?.bind fun cte => singleTable? cte.query).isSome then
    noticesOf (declaredNames ctes) (references ctes [])
  else []

/-- What is noticed after the last of some table names of the main query. -/
def noticesAfterTable (ctes : List Cte) (visited : List ObjectName) : List Notice :=
  match visited.getLast? with
  | some name =>
    noticesOf ((components name).filter (· ∈ declaredNames ctes)).eraseDups
      (references ctes visited)
  | none => []

/-- What is noticed along the `WITH` clause: each beginning of it ends in the entry just read. -/
def entryNotices (ctes : List Cte) : List Notice := ctes.inits.flatMap noticesAfterEntry

/-- What is noticed along the table names of the main query. -/
def tableNotices (ctes : List Cte) (tables : List ObjectName) : List Notice :=
  tables.inits.flatMap (noticesAfterTable ctes)

theorem mem_declaredNames (ctes : List Cte) (name : String) :
    name ∈ declaredNames ctes ↔ name ∈ ctes.map declaredName := List.mem_eraseDups

theorem nodup_declaredNames (ctes : List Cte) : (declaredNames ctes).Nodup := nodup_eraseDups _

theorem declaredNames_concat (ctes : List Cte) (cte : Cte) :
    declaredNames (ctes ++ [cte]) = addName (declaredNames ctes) (declaredName cte) := by
  rw [declaredNames, List.map_append, List.map_singleton, eraseDups_concat]
  rfl

theorem sinceDeclared_of_not_mem (name : String) (ctes : List Cte)
    (absent : name ∉ ctes.map declaredName) : sinceDeclared name ctes = [] := by
  cases ctes with
  | nil => rfl
  | cons cte rest =>
    simp only [List.map_cons, List.mem_cons, not_or] at absent
    rw [sinceDeclared, if_neg absent.2, if_neg (Ne.symm absent.1)]

/-- The latest declaration of a name is where the entries that count for it begin. -/
theorem sinceDeclared_append (name : String) (before : List Cte) (cte : Cte) (after : List Cte)
    (here : declaredName cte = name) (latest : name ∉ after.map declaredName) :
    sinceDeclared name (before ++ cte :: after) = cte :: after := by
  induction before with
  | nil => rw [List.nil_append, sinceDeclared, if_neg latest, if_pos here]
  | cons first rest ih =>
    have later : name ∈ (rest ++ cte :: after).map declaredName := by simp [here]
    rw [List.cons_append, sinceDeclared, if_pos later, ih]

theorem sinceDeclared_concat (name : String) (ctes : List Cte) (cte : Cte)
    (different : declaredName cte ≠ name) (known : name ∈ ctes.map declaredName) :
    sinceDeclared name (ctes ++ [cte]) = sinceDeclared name ctes ++ [cte] := by
  induction ctes with
  | nil => simp at known
  | cons first rest ih =>
    by_cases later : name ∈ rest.map declaredName
    · have later' : name ∈ (rest ++ [cte]).map declaredName := by
        rw [List.map_append]
        exact List.mem_append_left _ later
      rw [List.cons_append, sinceDeclared, if_pos later', ih later, sinceDeclared, if_pos later]
    · have here : declaredName first = name := by
        rcases List.mem_cons.mp known with same | member
        · exact same.symm
        · exact absurd member later
      have later' : name ∉ (rest ++ [cte]).map declaredName := by
        simp only [List.map_append, List.mem_append, not_or]
        exact ⟨later, by simpa using Ne.symm different⟩
      rw [List.cons_append, sinceDeclared, if_neg later', if_pos here, sinceDeclared,
        if_neg later, if_pos here, List.cons_append]

theorem mentions_append (first second : List ObjectName) (name : String) :
    mentions (first ++ second) name = mentions first name + mentions second name := by
  rw [mentions, List.flatMap_append, List.count_append]
  rfl

theorem references_declared (ctes : List Cte) (cte : Cte) :
    references (ctes ++ [cte]) [] (declaredName cte) =
      mentions (scannedTables [cte]) (declaredName cte) := by
  rw [references, sinceDeclared_append _ ctes cte [] rfl (by simp), List.append_nil]

theorem references_concat (ctes : List Cte) (cte : Cte) (name : String)
    (different : declaredName cte ≠ name) (known : name ∈ ctes.map declaredName) :
    references (ctes ++ [cte]) [] name =
      references ctes [] name + mentions (scannedTables [cte]) name := by
  rw [references, sinceDeclared_concat name ctes cte different known, scannedTables,
    List.filterMap_append, List.append_nil, mentions_append, references, List.append_nil]
  rfl

theorem references_visited (ctes : List Cte) (visited : List ObjectName) (table : ObjectName)
    (name : String) :
    references ctes (visited ++ [table]) name =
      references ctes visited name + (components table).count name := by
  rw [references, ← List.append_assoc, mentions_append]
  simp [mentions, references]

theorem references_le_visited (ctes : List Cte) (visited : List ObjectName) (table : ObjectName)
    (name : String) : references ctes visited name ≤ references ctes (visited ++ [table]) name := by
  rw [references_visited]
  exact Nat.le_add_right _ _

/-- The counts after an entry: its alias starts at zero, and what the entry reads is then counted. -/
def countEntry (count : String → Nat) (cte : Cte) (name : String) : Nat :=
  Function.update count (declaredName cte) 0 name + mentions (scannedTables [cte]) name

theorem declare_table (names : List String) (count : String → Nat) (distinct : names.Nodup)
    (earlier : List Notice) (cte : Cte) :
    State.declare ⟨table names count, earlier⟩ cte =
      ⟨table (addName names (declaredName cte)) (countEntry count cte),
        earlier ++ if (singleTable? cte.query).isSome
          then noticesOf (addName names (declaredName cte)) (countEntry count cte) else []⟩ := by
  have registered : (table names count).register (Text.lowercase cte.name.value) =
      table (addName names (declaredName cte)) (Function.update count (declaredName cte) 0) :=
    register_table names count distinct (declaredName cte)
  cases read : singleTable? cte.query with
  | none =>
    have silent : countEntry count cte = Function.update count (declaredName cte) 0 := by
      funext name
      simp [countEntry, scannedTables, mentions, read]
    simp only [State.declare, read, registered, silent, Option.isSome_none, Bool.false_eq_true,
      if_false, List.append_nil]
  | some name =>
    have scanned : ((table (addName names (declaredName cte))
        (Function.update count (declaredName cte) 0)).scan (components name)).1 =
          table (addName names (declaredName cte)) (countEntry count cte) := by
      rw [scan_table _ _ (nodup_addName names distinct _)]
      apply table_congr
      intro component _
      simp [countEntry, scannedTables, mentions, read]
    simp only [State.declare, read, registered, scanned, noticeAll_table, Option.isSome_some,
      if_true]

/-- The counts after a table name. -/
def countTable (count : String → Nat) (table : ObjectName) (name : String) : Nat :=
  count name + (components table).count name

/-- A table name of the main query is counted for every alias and noticed for those it names. -/
theorem visit_table (names : List String) (count : String → Nat) (distinct : names.Nodup)
    (earlier : List Notice) (name : ObjectName) :
    State.visit ⟨table names count, earlier⟩ name =
      ⟨table names (countTable count name),
        earlier ++ noticesOf ((components name).filter (· ∈ names)).eraseDups
          (countTable count name)⟩ := by
  have declared : ∀ component ∈ ((components name).filter (· ∈ names)).eraseDups,
      component ∈ names :=
    fun component present => ((mem_named names (components name) component).mp present).2
  unfold State.visit
  rw [scan_table names count distinct]
  simp only [noticeAt_table names _ _ declared]
  rfl

theorem countEntry_references (ctes : List Cte) (cte : Cte) (name : String)
    (known : name ∈ addName (declaredNames ctes) (declaredName cte)) :
    countEntry (references ctes []) cte name = references (ctes ++ [cte]) [] name := by
  by_cases same : declaredName cte = name
  · subst same
    rw [countEntry, Function.update_self, Nat.zero_add, references_declared]
  · have before : name ∈ ctes.map declaredName := by
      rw [← declaredNames_concat, mem_declaredNames, List.map_append] at known
      rcases List.mem_append.mp known with member | last
      · exact member
      · exact absurd (List.mem_singleton.mp last).symm same
    rw [countEntry, Function.update_of_ne (Ne.symm same), references_concat ctes cte name same before]

theorem entryNotices_concat (ctes : List Cte) (cte : Cte) :
    entryNotices (ctes ++ [cte]) =
      entryNotices ctes ++ if (singleTable? cte.query).isSome
        then noticesOf (declaredNames (ctes ++ [cte])) (references (ctes ++ [cte]) []) else [] := by
  simp [entryNotices, noticesAfterEntry]

theorem tableNotices_concat (ctes : List Cte) (tables : List ObjectName) (name : ObjectName) :
    tableNotices ctes (tables ++ [name]) =
      tableNotices ctes tables ++
        noticesOf ((components name).filter (· ∈ declaredNames ctes)).eraseDups
          (references ctes (tables ++ [name])) := by
  simp [tableNotices, noticesAfterTable]

/-- The first pass: after each entry the count of an alias is the number of its references. -/
theorem foldl_declare (ctes : List Cte) :
    ctes.foldl State.declare {} =
      ⟨table (declaredNames ctes) (references ctes []), entryNotices ctes⟩ := by
  induction ctes using List.reverseRecOn with
  | nil => rfl
  | append_singleton ctes cte ih =>
    have counted : table (addName (declaredNames ctes) (declaredName cte))
        (countEntry (references ctes []) cte) =
          table (declaredNames (ctes ++ [cte])) (references (ctes ++ [cte]) []) := by
      rw [declaredNames_concat]
      exact table_congr _ _ _ (countEntry_references ctes cte)
    have noticed : noticesOf (addName (declaredNames ctes) (declaredName cte))
        (countEntry (references ctes []) cte) =
          noticesOf (declaredNames (ctes ++ [cte])) (references (ctes ++ [cte]) []) := by
      rw [← noticeAll_table, counted, noticeAll_table]
    rw [List.foldl_append, ih, List.foldl_cons, List.foldl_nil,
      declare_table _ _ (nodup_declaredNames ctes), counted, noticed,
      entryNotices_concat]

/-- The second pass: after each table name the count of an alias is the number of its references. -/
theorem foldl_visit (ctes : List Cte) (earlier : List Notice) (tables : List ObjectName) :
    tables.foldl State.visit ⟨table (declaredNames ctes) (references ctes []), earlier⟩ =
      ⟨table (declaredNames ctes) (references ctes tables),
        earlier ++ tableNotices ctes tables⟩ := by
  induction tables using List.reverseRecOn with
  | nil => simp [tableNotices, noticesAfterTable]
  | append_singleton tables name ih =>
    have counted : countTable (references ctes tables) name =
        references ctes (tables ++ [name]) := by
      funext component
      rw [countTable, references_visited]
    rw [List.foldl_append, ih, List.foldl_cons, List.foldl_nil,
      visit_table _ _ (nodup_declaredNames ctes), counted, tableNotices_concat,
      List.append_assoc]

theorem queryNotices_eq (query : Query) (ctes : List Cte) (declared : query.withClause = some ctes) :
    queryNotices query =
      entryNotices ctes ++ tableNotices ctes (tableNames (query.walkBody depthLimit 0)) := by
  rw [queryNotices, declared]
  simp only [foldl_declare, foldl_visit]

/-- The messages about a statement are those of the references counted afresh at every point: after
each entry that reads a single table, and after each table name of the main query. -/
theorem messages_eq_references (statement : Statement) (query : Query) (ctes : List Cte)
    (carried : statement.query? = some query) (declared : query.withClause = some ctes) :
    messages statement =
      (entryNotices ctes ++
        tableNotices ctes (tableNames (query.walkBody depthLimit 0))).map Notice.text := by
  rw [messages, notices, carried]
  simp only [queryNotices_eq query ctes declared]

/-- A name without quotes that came from no text. -/
def bareName (value : String) : Ident := ⟨value, none, Span.empty⟩

/-- The query that selects nothing from one table. -/
def readingFrom (path : List String) : Query :=
  ⟨none, .select ⟨.absent, [], [⟨.table (path.map fun value => .ident (bareName value)) [], []⟩],
    none, .keys [], none, none, []⟩, [], []⟩

/-- An alias is read, declared again and then read twice by its own entry. -/
def redeclared : List Cte :=
  [⟨bareName "a", readingFrom ["t"]⟩, ⟨bareName "b", readingFrom ["a"]⟩,
    ⟨bareName "A", readingFrom ["x", "a", "a"]⟩]

theorem messages_eq_references_redeclared :
    let query := { readingFrom ["b", "a"] with withClause := some redeclared }
    (Statement.query query).query? = some query ∧ query.withClause = some redeclared ∧
      messages (.query query) =
        ["CTE with multiple references: alias a is referenced 2 times.",
          "CTE with multiple references: alias a is referenced 3 times."] := by
  refine ⟨rfl, rfl, ?_⟩
  rw [messages_eq_references _ _ redeclared rfl rfl]
  decide +kernel

end QueryLint.Rule.SharedCte
