import QueryLint.Proofs.SharedCte.Totals
import QueryLint.Proofs.Walk.Preorder

/-!
When nothing is noticed about shared common table expressions.

An entry declares its alias before the table that it reads is counted. A base table that goes by the
alias of the entry that reads it therefore counts as a reference to that alias, along with the later
entries and the main query. Main statement: where no alias is declared twice, there is no message
just if each alias is named at most once, by its own entry and by all that comes after it together.
-/

namespace QueryLint.Rule.SharedCte

open Sql

/-- How often the table that an entry reads names the entry's own alias. -/
def ownReads (cte : Cte) : Nat := mentions (singleTable? cte.query).toList (declaredName cte)

def otherReads (later : List Cte) (tables : List ObjectName) (name : String) : Nat :=
  mentions (scannedTables later ++ tables) name

theorem references_eq_reads (before : List Cte) (cte : Cte) (later : List Cte)
    (tables : List ObjectName) (latest : declaredName cte ∉ later.map declaredName) :
    references (before ++ cte :: later) tables (declaredName cte) =
      ownReads cte + otherReads later tables (declaredName cte) := by
  have scanned : scannedTables (cte :: later) =
      (singleTable? cte.query).toList ++ scannedTables later := by
    rw [scannedTables, List.filterMap_cons]
    cases singleTable? cte.query <;> rfl
  calc references (before ++ cte :: later) tables (declaredName cte)
      = mentions (scannedTables (cte :: later) ++ tables) (declaredName cte) := by
        rw [references, sinceDeclared_append _ before cte later rfl latest]
    _ = mentions ((singleTable? cte.query).toList ++ (scannedTables later ++ tables))
          (declaredName cte) := by rw [scanned, List.append_assoc]
    _ = ownReads cte + otherReads later tables (declaredName cte) := mentions_append _ _ _

theorem Faithful.eq_nil_iff {names : List String} {count : String → Nat} {given : List Notice}
    (faithful : Faithful names count given) : given = [] ↔ ∀ name ∈ names, count name ≤ 1 := by
  constructor
  · intro empty name known
    have latest := faithful.latest name known
    by_contra more
    rw [empty, if_pos (Nat.lt_of_not_le more)] at latest
    cases latest
  · intro few
    apply List.eq_nil_iff_forall_not_mem.mpr
    intro notice member
    obtain ⟨known, more⟩ := faithful.about notice member
    have listed : notice.count ∈ countsFor notice.name given :=
      List.mem_map_of_mem (List.mem_filter.mpr ⟨member, decide_eq_true rfl⟩)
    have bound := faithful.le_count notice.name known notice.count listed
    have atMost := few notice.name known
    omega

/-- Where no alias is declared twice, there is no message just if every alias is named at most once,
by the entry that declares it, later entries and the main query together. -/
theorem messages_eq_nil_iff_reads (statement : Statement) (query : Query) (ctes : List Cte)
    (carried : statement.query? = some query) (declared : query.withClause = some ctes)
    (distinct : (ctes.map declaredName).Nodup) :
    messages statement = [] ↔
      ∀ before cte later, ctes = before ++ cte :: later →
        ownReads cte + otherReads later (tableNames (query.walkBody depthLimit 0))
          (declaredName cte) ≤ 1 := by
  let tables := tableNames (query.walkBody depthLimit 0)
  have given : messages statement =
      (entryNotices ctes ++ tableNotices ctes tables).map Notice.text := by
    rw [messages, notices, carried]
    simp only [queryNotices_eq query ctes declared, tables]
  -- An alias is declared by just one entry, which divides the clause in two.
  have counted (before : List Cte) (cte : Cte) (later : List Cte)
      (shape : ctes = before ++ cte :: later) :
      references ctes tables (declaredName cte) =
        ownReads cte + otherReads later tables (declaredName cte) := by
    subst shape
    rw [List.map_append, List.map_cons] at distinct
    exact references_eq_reads before cte later tables
      (List.nodup_cons.mp (List.nodup_append.mp distinct).2.1).1
  rw [given, List.map_eq_nil_iff, (faithful_tableNotices ctes distinct tables).eq_nil_iff]
  constructor
  · intro few before cte later shape
    have known : declaredName cte ∈ declaredNames ctes := by
      rw [mem_declaredNames, shape]
      simp
    rw [← counted before cte later shape]
    exact few _ known
  · intro few name known
    obtain ⟨cte, member, rfl⟩ := List.mem_map.mp ((mem_declaredNames _ _).mp known)
    obtain ⟨before, later, shape⟩ := List.append_of_mem member
    rw [counted before cte later shape]
    exact few before cte later shape

def quotedPath (path : List String) : ObjectName :=
  path.map fun value => .ident ⟨value, some '`', ⟨1, 1, 1, 20⟩⟩

/-- The first entry reads a table whose quoted path ends in the alias of the entry. -/
def overQuotedTable : List Cte :=
  [⟨bareName "b", selecting (quotedPath ["project", "dataset", "b"]) none⟩,
    ⟨bareName "c", readingFrom ["b"]⟩]

theorem messages_eq_nil_iff_reads_quoted :
    let query := { readingFrom ["c"] with withClause := some overQuotedTable }
    let tables := tableNames (query.walkBody depthLimit 0)
    (overQuotedTable.map declaredName).Nodup ∧ messages (.query query) = [] ∧
      ∀ cte ∈ overQuotedTable.head?, ownReads cte = 0 ∧
        otherReads overQuotedTable.tail tables (declaredName cte) = 1 ∧
        ownReads cte + otherReads overQuotedTable.tail tables (declaredName cte) ≤ 1 := by
  intro query tables
  have distinct : (overQuotedTable.map declaredName).Nodup := by decide +kernel
  have silent : messages (.query query) = [] := by decide +kernel
  have reads := (messages_eq_nil_iff_reads (.query query) query overQuotedTable rfl rfl distinct).mp
    silent
  refine ⟨distinct, silent, ?_⟩
  intro cte head
  cases head
  exact ⟨by decide +kernel, by decide +kernel, reads [] _ _ rfl⟩

/-- A base table that goes by the alias of the only entry is read inside that entry, by its name
alone or behind a dataset. The alias is named once outside the entry and is reported all the same. -/
theorem messages_count_own_table :
    let plain := { readingFrom ["t"] with withClause := some [⟨bareName "t", readingFrom ["t"]⟩] }
    let dotted := { readingFrom ["t"] with
      withClause := some [⟨bareName "t", readingFrom ["dataset", "t"]⟩] }
    otherReads [] (tableNames (plain.walkBody depthLimit 0)) "t" = 1 ∧
      messages (.query plain) = ["CTE with multiple references: alias t is referenced 2 times."] ∧
      otherReads [] (tableNames (dotted.walkBody depthLimit 0)) "t" = 1 ∧
      messages (.query dotted) =
        ["CTE with multiple references: alias t is referenced 2 times."] := by
  decide +kernel

end QueryLint.Rule.SharedCte
