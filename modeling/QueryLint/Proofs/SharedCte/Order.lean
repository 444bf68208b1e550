import Mathlib.Data.List.Basic
import QueryLint.Proofs.SharedCte.Totals

/-!
The order of the aliases that one table name gives rise to notices about.

After an entry of the `WITH` clause the counts are gone through as they stand, and so in the order
of declaration. After a table name of the main query only the aliases that it mentions are gone
through, and in the order of first mention. Main statement: where no alias is declared twice, the
notices after an entry always follow the order of declaration, and those after a table name of the
main query do so if the name mentions the aliases in that order.
-/

namespace QueryLint.Rule.SharedCte

open Sql AliasCounts

/-- The aliases that a table name mentions, in the order of first mention. -/
def namedAliases (ctes : List Cte) (table : ObjectName) : List String :=
  ((components table).filter (· ∈ ctes.map declaredName)).eraseDups

theorem eraseDups_of_nodup (names : List String) (distinct : names.Nodup) :
    names.eraseDups = names := by
  induction names using List.reverseRecOn with
  | nil => rfl
  | append_singleton names name ih =>
    obtain ⟨earlier, -, apart⟩ := List.nodup_append.mp distinct
    have fresh : name ∉ names := fun member =>
      apart name member name (List.mem_singleton_self name) rfl
    rw [eraseDups_concat, ih earlier, addName, if_neg fresh]

theorem declaredNames_of_nodup (ctes : List Cte) (distinct : (ctes.map declaredName).Nodup) :
    declaredNames ctes = ctes.map declaredName := eraseDups_of_nodup _ distinct

theorem names_noticesOf (names : List String) (count : String → Nat) :
    (noticesOf names count).map (·.name) = names.filter fun name => 1 < count name := by
  induction names with
  | nil => rfl
  | cons name rest ih =>
    rw [noticesOf] at ih ⊢
    by_cases more : 1 < count name
    · simpa [notice?, more] using ih
    · simpa [notice?, more] using ih

theorem notices_concat_entry (before : List Cte) (cte : Cte) :
    ((before ++ [cte]).foldl State.declare {}).notices =
      (before.foldl State.declare {}).notices ++ noticesAfterEntry (before ++ [cte]) := by
  rw [foldl_declare, foldl_declare, entryNotices_concat]
  simp [noticesAfterEntry]

theorem names_noticesAfterEntry_sublist (ctes : List Cte) :
    ((noticesAfterEntry ctes).map (·.name)).Sublist (declaredNames ctes) := by
  rw [noticesAfterEntry]
  split
  · rw [names_noticesOf]
    exact List.filter_sublist
  · exact List.nil_sublist _

theorem notices_visit (ctes : List Cte) (before : List ObjectName) (table : ObjectName) :
    ((before.foldl State.visit (ctes.foldl State.declare {})).visit table).notices =
      (before.foldl State.visit (ctes.foldl State.declare {})).notices ++
        noticesOf (namedAliases ctes table) (references ctes (before ++ [table])) := by
  have named : ((components table).filter (· ∈ declaredNames ctes)).eraseDups =
      namedAliases ctes table := by
    simp only [namedAliases, mem_declaredNames]
  have stepped : (before.foldl State.visit (ctes.foldl State.declare {})).visit table =
      (before ++ [table]).foldl State.visit (ctes.foldl State.declare {}) := by
    rw [List.foldl_append, List.foldl_cons, List.foldl_nil]
  rw [stepped, foldl_declare, foldl_visit, foldl_visit, tableNotices_concat, named,
    List.append_assoc]

/-- Where no alias is declared twice, the notices after an entry of the `WITH` clause follow the
order of declaration. Those after a table name of the main query follow the order in which it
mentions the aliases, and so the order of declaration if it mentions them in that order. -/
theorem notices_follow_declaration (statement : Statement) (query : Query) (ctes : List Cte)
    (carried : statement.query? = some query) (declared : query.withClause = some ctes)
    (distinct : (ctes.map declaredName).Nodup) :
    let start := ctes.foldl State.declare {}
    let tables := tableNames (query.walkBody depthLimit 0)
    messages statement = (tables.foldl State.visit start).notices.map Notice.text ∧
      (∀ before cte later, ctes = before ++ cte :: later →
        ∃ added, ((before ++ [cte]).foldl State.declare {}).notices =
            (before.foldl State.declare {}).notices ++ added ∧
          (added.map (·.name)).Sublist (ctes.map declaredName)) ∧
      ∀ before table later, tables = before ++ table :: later →
        ∃ added, ((before.foldl State.visit start).visit table).notices =
            (before.foldl State.visit start).notices ++ added ∧
          added.map (·.name) = (namedAliases ctes table).filter
            (fun name => 1 < references ctes (before ++ [table]) name) ∧
          ((namedAliases ctes table).Sublist (ctes.map declaredName) →
            (added.map (·.name)).Sublist (ctes.map declaredName)) := by
  intro start tables
  refine ⟨?_, ?_, ?_⟩
  · simp only [messages, notices, carried, queryNotices, declared, start, tables]
  · intro before cte later shape
    refine ⟨noticesAfterEntry (before ++ [cte]), notices_concat_entry before cte, ?_⟩
    -- The entries read so far are a beginning of the clause, and so are the aliases they declare.
    have beginning : ((before ++ [cte]).map declaredName).Sublist (ctes.map declaredName) := by
      have divided : ctes = (before ++ [cte]) ++ later := by simp [shape]
      rw [divided]
      exact (List.sublist_append_left _ _).map declaredName
    have names := declaredNames_of_nodup (before ++ [cte]) (distinct.sublist beginning)
    exact (names ▸ names_noticesAfterEntry_sublist (before ++ [cte])).trans beginning
  · intro before table later _
    refine ⟨_, notices_visit ctes before table, names_noticesOf _ _, ?_⟩
    intro ordered
    rw [names_noticesOf]
    exact List.filter_sublist.trans ordered

def readTwiceInTurn : List Cte :=
  [⟨bareName "a", readingFrom ["t"]⟩, ⟨bareName "b", readingFrom ["A", "a"]⟩,
    ⟨bareName "c", readingFrom ["b", "B"]⟩]

/-- The last entry and the only table of the main query each lead to a notice about two aliases. -/
theorem notices_follow_declaration_inTurn :
    let query := { readingFrom ["a", "b"] with withClause := some readTwiceInTurn }
    (readTwiceInTurn.map declaredName).Nodup ∧
      messages (.query query) =
        ["CTE with multiple references: alias a is referenced 2 times.",
          "CTE with multiple references: alias a is referenced 2 times.",
          "CTE with multiple references: alias b is referenced 2 times.",
          "CTE with multiple references: alias a is referenced 3 times.",
          "CTE with multiple references: alias b is referenced 3 times."] ∧
      ∃ added, (((readTwiceInTurn.foldl State.declare {}).visit
            [.ident (bareName "a"), .ident (bareName "b")]).notices =
          (readTwiceInTurn.foldl State.declare {}).notices ++ added) ∧
        (added.map (·.name)).Sublist (readTwiceInTurn.map declaredName) := by
  intro query
  have distinct : (readTwiceInTurn.map declaredName).Nodup := by decide +kernel
  obtain ⟨given, -, tables⟩ :=
    notices_follow_declaration (.query query) query readTwiceInTurn rfl rfl distinct
  obtain ⟨added, step, -, ordered⟩ :=
    tables [] [.ident (bareName "a"), .ident (bareName "b")] [] rfl
  refine ⟨distinct, ?_, added, step, ordered (by decide +kernel)⟩
  rw [given]
  decide +kernel

/-- A table in a dataset, where the dataset goes by the alias of the later of two entries and the
table by that of the earlier one. -/
def backwardPath : ObjectName := [.ident (bareName "b"), .ident (bareName "a")]

def readingBackwards : Query :=
  ⟨some [⟨bareName "a", readingFrom ["t"]⟩, ⟨bareName "b", readingFrom ["u"]⟩],
    .select ⟨.absent, [], [⟨.table backwardPath [], []⟩, ⟨.table backwardPath [], []⟩], none,
      .keys [], none, none, []⟩, [], []⟩

/-- When the table is read again, both aliases are noticed against the order of declaration. -/
theorem notices_against_declaration :
    let ctes := readingBackwards.withClause.getD []
    let once := (ctes.foldl State.declare {}).visit backwardPath
    let added : List Notice := [⟨"b", 2⟩, ⟨"a", 2⟩]
    tableNames (readingBackwards.walkBody depthLimit 0) = [backwardPath, backwardPath] ∧
      (ctes.map declaredName).Nodup ∧
      (once.visit backwardPath).notices = once.notices ++ added ∧
      ¬(added.map (·.name)).Sublist (ctes.map declaredName) ∧
      messages (.query readingBackwards) =
        ["CTE with multiple references: alias b is referenced 2 times.",
          "CTE with multiple references: alias a is referenced 2 times."] := by
  decide +kernel

end QueryLint.Rule.SharedCte
