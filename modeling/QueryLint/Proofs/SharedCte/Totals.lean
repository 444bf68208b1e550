import Mathlib.Data.List.Basic
import QueryLint.Proofs.SharedCte.References
import QueryLint.Proofs.Text.Numeral

/-!
What the notices about one alias come to. Where no alias is declared twice, the notices about an
alias give counts that never fall, the last of them is the number of all references to the alias,
and there is a notice just if that number is more than one.

The invariant along both passes is that the notices given so far agree with the present counts. A
step keeps it when it notices every alias whose count it has raised.
-/

namespace QueryLint.Rule.SharedCte

open Sql AliasCounts

/-- The counts that notices give for a name, in order. -/
def countsFor (name : String) (given : List Notice) : List Nat :=
  (given.filter (·.name = name)).map (·.count)

theorem countsFor_append (name : String) (first second : List Notice) :
    countsFor name (first ++ second) = countsFor name first ++ countsFor name second := by
  rw [countsFor, List.filter_append, List.map_append]
  rfl

theorem countsFor_eq_nil (name : String) (given : List Notice)
    (other : ∀ notice ∈ given, notice.name ≠ name) : countsFor name given = [] := by
  rw [countsFor, List.map_eq_nil_iff, List.filter_eq_nil_iff]
  intro notice member
  simpa using other notice member

theorem mem_noticesOf (names : List String) (count : String → Nat) (notice : Notice) :
    notice ∈ noticesOf names count ↔
      notice.name ∈ names ∧ notice.count = count notice.name ∧ 1 < notice.count := by
  rw [noticesOf, List.mem_filterMap]
  constructor
  · rintro ⟨name, member, noticed⟩
    rw [notice?] at noticed
    split at noticed
    next more =>
      cases noticed
      exact ⟨member, rfl, more⟩
    next => cases noticed
  · rintro ⟨member, same, more⟩
    refine ⟨notice.name, member, ?_⟩
    rw [notice?, if_pos (same ▸ more), ← same]

theorem countsFor_noticesOf (names : List String) (distinct : names.Nodup) (count : String → Nat)
    (name : String) :
    countsFor name (noticesOf names count) =
      if name ∈ names ∧ 1 < count name then [count name] else [] := by
  induction names with
  | nil => simp [noticesOf, countsFor]
  | cons first rest ih =>
    obtain ⟨fresh, distinctRest⟩ := List.nodup_cons.mp distinct
    have split : noticesOf (first :: rest) count =
        noticesOf [first] count ++ noticesOf rest count := by
      rw [noticesOf, noticesOf, noticesOf, ← List.filterMap_append, List.singleton_append]
    rw [split, countsFor_append, ih distinctRest]
    by_cases same : first = name
    · subst same
      by_cases more : 1 < count first
      · simp [noticesOf, notice?, countsFor, more, fresh]
      · simp [noticesOf, notice?, countsFor, more]
    · have none : countsFor name (noticesOf [first] count) = [] := by
        apply countsFor_eq_nil
        intro notice member
        have about := ((mem_noticesOf [first] count notice).mp member).1
        rw [List.mem_singleton.mp about]
        exact same
      simp [none, Ne.symm same]

/-- Notices agree with counts: each is about a known name read more than once, and for each known
name the counts given do not fall and end in the present one, if that is more than one. -/
structure Faithful (names : List String) (count : String → Nat) (given : List Notice) : Prop where
  about : ∀ notice ∈ given, notice.name ∈ names ∧ 1 < notice.count
  ascending : ∀ name ∈ names, (countsFor name given).Pairwise (· ≤ ·)
  latest : ∀ name ∈ names, (countsFor name given).getLast? =
    if 1 < count name then some (count name) else none

namespace Faithful

variable {names : List String} {count : String → Nat} {given : List Notice}

theorem le_count (faithful : Faithful names count given) (name : String) (known : name ∈ names)
    (value : Nat) (member : value ∈ countsFor name given) : value ≤ count name := by
  have last := faithful.latest name known
  by_cases more : 1 < count name
  · rw [if_pos more] at last
    obtain ⟨before, shape⟩ := List.getLast?_eq_some_iff.mp last
    have ascending := faithful.ascending name known
    rw [shape] at member ascending
    rcases List.mem_append.mp member with earlier | final
    · exact (List.pairwise_append.mp ascending).2.2 value earlier _ (List.mem_singleton_self _)
    · exact (List.mem_singleton.mp final).le
  · rw [if_neg more, List.getLast?_eq_none_iff] at last
    rw [last] at member
    cases member

/-- A name declared for the first time has no notices yet. -/
theorem declare (faithful : Faithful names count given) (name : String) (fresh : name ∉ names) :
    Faithful (names ++ [name]) (Function.update count name 0) given := by
  have silent : countsFor name given = [] :=
    countsFor_eq_nil name given fun notice member same =>
      fresh (same ▸ (faithful.about notice member).1)
  refine ⟨?_, ?_, ?_⟩
  · intro notice member
    obtain ⟨known, more⟩ := faithful.about notice member
    exact ⟨List.mem_append_left _ known, more⟩
  · intro other known
    by_cases same : other = name
    · rw [same, silent]
      exact List.Pairwise.nil
    · have old : other ∈ names := by simpa [same] using known
      exact faithful.ascending other old
  · intro other known
    by_cases same : other = name
    · rw [same, silent]
      simp
    · have old : other ∈ names := by simpa [same] using known
      rw [Function.update_of_ne same]
      exact faithful.latest other old

/-- The step of both passes: counts may grow, and every name whose count does grow is noticed. -/
theorem notice (faithful : Faithful names count given) (next : String → Nat) (named : List String)
    (distinct : named.Nodup) (known : ∀ name ∈ named, name ∈ names)
    (grows : ∀ name ∈ names, count name ≤ next name)
    (complete : ∀ name ∈ names, name ∉ named → next name = count name) :
    Faithful names next (given ++ noticesOf named next) := by
  refine ⟨?_, ?_, ?_⟩
  · intro notice member
    rcases List.mem_append.mp member with earlier | new
    · exact faithful.about notice earlier
    · obtain ⟨present, -, more⟩ := (mem_noticesOf named next notice).mp new
      exact ⟨known _ present, more⟩
  · intro name declared
    rw [countsFor_append, countsFor_noticesOf named distinct]
    apply List.pairwise_append.mpr
    refine ⟨faithful.ascending name declared, ?_, ?_⟩
    · split
      · exact List.pairwise_singleton _ _
      · exact List.Pairwise.nil
    · intro value member other new
      split at new
      · rw [List.mem_singleton.mp new]
        exact (faithful.le_count name declared value member).trans (grows name declared)
      · cases new
  · intro name declared
    rw [countsFor_append, countsFor_noticesOf named distinct]
    by_cases noticed : name ∈ named ∧ 1 < next name
    · rw [if_pos noticed, if_pos noticed.2, List.getLast?_concat]
    · rw [if_neg noticed, List.append_nil, faithful.latest name declared]
      by_cases present : name ∈ named
      · have few : ¬1 < next name := fun more => noticed ⟨present, more⟩
        have fewer : ¬1 < count name := fun more =>
          few (Nat.lt_of_lt_of_le more (grows name declared))
        rw [if_neg few, if_neg fewer]
      · rw [complete name declared present]

end Faithful

/-- Along the `WITH` clause. An entry that is not scanned raises no count and notices nothing. -/
theorem faithful_entryNotices (ctes : List Cte) (distinct : (ctes.map declaredName).Nodup) :
    Faithful (declaredNames ctes) (references ctes []) (entryNotices ctes) := by
  induction ctes using List.reverseRecOn with
  | nil => exact ⟨by simp [entryNotices, noticesAfterEntry], by simp [declaredNames],
      by simp [declaredNames]⟩
  | append_singleton ctes cte ih =>
    rw [List.map_append, List.map_singleton] at distinct
    obtain ⟨earlier, -, apart⟩ := List.nodup_append.mp distinct
    have fresh : declaredName cte ∉ declaredNames ctes := by
      rw [mem_declaredNames]
      exact fun member => apart _ member _ (List.mem_singleton_self _) rfl
    have names : declaredNames (ctes ++ [cte]) = declaredNames ctes ++ [declaredName cte] := by
      rw [declaredNames_concat, addName, if_neg fresh]
    have start := (ih earlier).declare (declaredName cte) fresh
    rw [← names] at start
    have counted : ∀ name ∈ declaredNames (ctes ++ [cte]),
        references (ctes ++ [cte]) [] name =
          Function.update (references ctes []) (declaredName cte) 0 name +
            mentions (scannedTables [cte]) name := by
      intro name known
      rw [declaredNames_concat] at known
      exact (countEntry_references ctes cte name known).symm
    have grows : ∀ name ∈ declaredNames (ctes ++ [cte]),
        Function.update (references ctes []) (declaredName cte) 0 name ≤
          references (ctes ++ [cte]) [] name := by
      intro name known
      rw [counted name known]
      exact Nat.le_add_right _ _
    rw [entryNotices_concat]
    cases read : singleTable? cte.query with
    | none =>
      have silent := start.notice (references (ctes ++ [cte]) []) [] List.nodup_nil (by simp) grows
        (fun name known _ => by
          rw [counted name known]
          simp [mentions, scannedTables, read])
      simpa [noticesOf] using silent
    | some table =>
      exact start.notice _ _ (nodup_declaredNames _) (fun _ member => member) grows
        (fun name known missing => absurd known missing)

/-- Along the main query. -/
theorem faithful_tableNotices (ctes : List Cte) (distinct : (ctes.map declaredName).Nodup)
    (tables : List ObjectName) :
    Faithful (declaredNames ctes) (references ctes tables)
      (entryNotices ctes ++ tableNotices ctes tables) := by
  induction tables using List.reverseRecOn with
  | nil => simpa [tableNotices, noticesAfterTable] using faithful_entryNotices ctes distinct
  | append_singleton tables table ih =>
    rw [tableNotices_concat, ← List.append_assoc]
    apply ih.notice _ _ (nodup_eraseDups _)
    · intro name member
      exact ((mem_named _ _ name).mp member).2
    · intro name _
      exact references_le_visited ctes tables table name
    · intro name known missing
      have absent : name ∉ components table := fun member =>
        missing ((mem_named _ _ name).mpr ⟨member, known⟩)
      rw [references_visited, List.count_eq_zero_of_not_mem absent, Nat.add_zero]

/-- A table name that is noticed for an alias has raised its count. -/
theorem countsFor_tableNotices (ctes : List Cte) (tables : List ObjectName) (name : String) :
    (countsFor name (tableNotices ctes tables)).Pairwise (· < ·) ∧
      ∀ value ∈ countsFor name (tableNotices ctes tables), value ≤ references ctes tables name := by
  induction tables using List.reverseRecOn with
  | nil => simp [tableNotices, noticesAfterTable, countsFor]
  | append_singleton tables table ih =>
    obtain ⟨ascending, bounded⟩ := ih
    rw [tableNotices_concat, countsFor_append, countsFor_noticesOf _ (nodup_eraseDups _)]
    by_cases noticed : name ∈ ((components table).filter (· ∈ declaredNames ctes)).eraseDups ∧
        1 < references ctes (tables ++ [table]) name
    · have named := ((mem_named _ _ name).mp noticed.1).1
      have raised : references ctes tables name < references ctes (tables ++ [table]) name := by
        have positive := List.count_pos_iff.mpr named
        rw [references_visited]
        omega
      rw [if_pos noticed]
      constructor
      · apply List.pairwise_append.mpr
        refine ⟨ascending, List.pairwise_singleton _ _, ?_⟩
        intro value member other last
        rw [List.mem_singleton.mp last]
        exact Nat.lt_of_le_of_lt (bounded value member) raised
      · intro value member
        rcases List.mem_append.mp member with earlier | last
        · exact (bounded value earlier).trans raised.le
        · exact (List.mem_singleton.mp last).le
    · rw [if_neg noticed, List.append_nil]
      refine ⟨ascending, ?_⟩
      intro value member
      exact (bounded value member).trans (references_le_visited ctes tables table name)

/-- All references to an alias: in the entry that declares it, in later entries and in the main
query. -/
def total (ctes : List Cte) (tables : List ObjectName) (name : String) : Nat :=
  mentions (scannedTables (ctes.dropWhile fun cte => declaredName cte ≠ name) ++ tables) name

theorem sinceDeclared_of_nodup (name : String) (ctes : List Cte)
    (distinct : (ctes.map declaredName).Nodup) :
    sinceDeclared name ctes = ctes.dropWhile fun cte => declaredName cte ≠ name := by
  induction ctes with
  | nil => rfl
  | cons cte rest ih =>
    obtain ⟨fresh, distinctRest⟩ := List.nodup_cons.mp distinct
    by_cases here : declaredName cte = name
    · have later : name ∉ rest.map declaredName := here ▸ fresh
      rw [sinceDeclared, if_neg later, if_pos here, List.dropWhile_cons_of_neg (by simp [here])]
    · rw [List.dropWhile_cons_of_pos (by simp [here]), ← ih distinctRest, sinceDeclared]
      by_cases later : name ∈ rest.map declaredName
      · rw [if_pos later]
      · rw [if_neg later, if_neg here, sinceDeclared_of_not_mem name rest later]

theorem total_eq_references (ctes : List Cte) (distinct : (ctes.map declaredName).Nodup)
    (tables : List ObjectName) (name : String) :
    total ctes tables name = references ctes tables name := by
  rw [total, references, sinceDeclared_of_nodup name ctes distinct]

/-- Read backwards, a text gives its count up to the first space after the last word. -/
theorem Notice.reverse_text (notice : Notice) :
    notice.text.toList.reverse =
      " times.".toList.reverse ++ ((Nat.toDigits 10 notice.count).reverse ++
        ' ' :: (" is referenced".toList.reverse ++ (notice.name.toList.reverse ++
          "CTE with multiple references: alias ".toList.reverse))) := by
  have spelt : notice.text = "CTE with multiple references: alias " ++ notice.name ++
      " is referenced " ++ Nat.repr notice.count ++ " times." := rfl
  rw [spelt]
  simp only [String.toList_append, List.reverse_append, Nat.toList_repr]
  rfl

/-- A text tells which alias it is about and how often that is read, whatever the alias looks like. -/
theorem Notice.text_injective : Function.Injective Notice.text := by
  intro first second same
  have backwards := congrArg (fun text => text.toList.reverse) same
  simp only [Notice.reverse_text, List.append_cancel_left_eq] at backwards
  have apart (count : Nat) : ' ' ∉ (Nat.toDigits 10 count).reverse := fun member =>
    Text.space_not_mem_toDigits count (List.mem_reverse.mp member)
  obtain ⟨digits, letters⟩ := Text.append_mark_inj (apart _) (apart _) backwards
  have counts : first.count = second.count :=
    Text.toDigits_injective (List.reverse_injective digits)
  have names : first.name = second.name :=
    String.toList_injective (List.reverse_injective
      (List.append_cancel_right (List.append_cancel_left letters)))
  cases first
  cases second
  cases names
  cases counts
  rfl

/-- Where no alias is declared twice, an alias has a message just if it is referenced more than once
in all, and its last message gives that number. The counts in its messages never fall, and rise with
each message of the main query. No other message is given. -/
theorem messages_give_totals (statement : Statement) (query : Query) (ctes : List Cte)
    (carried : statement.query? = some query) (declared : query.withClause = some ctes)
    (distinct : (ctes.map declaredName).Nodup) :
    Function.Injective Notice.text ∧
      ∃ first later : List Notice,
        messages statement = (first ++ later).map Notice.text ∧
        first = (ctes.foldl State.declare {}).notices ∧
        (∀ notice ∈ first ++ later, notice.name ∈ ctes.map declaredName ∧ 2 ≤ notice.count) ∧
        ∀ name ∈ ctes.map declaredName,
          let counts := countsFor name (first ++ later)
          let all := total ctes (tableNames (query.walkBody depthLimit 0)) name
          (counts ≠ [] ↔ 1 < all) ∧ (∀ last ∈ counts.getLast?, last = all) ∧
            counts.Pairwise (· ≤ ·) ∧ (countsFor name later).Pairwise (· < ·) := by
  let tables := tableNames (query.walkBody depthLimit 0)
  have faithful := faithful_tableNotices ctes distinct tables
  refine ⟨Notice.text_injective, entryNotices ctes, tableNotices ctes tables, ?_, ?_, ?_, ?_⟩
  · rw [messages, notices, carried]
    simp only [queryNotices_eq query ctes declared, tables]
  · rw [foldl_declare]
  · intro notice member
    obtain ⟨known, more⟩ := faithful.about notice member
    exact ⟨(mem_declaredNames ctes _).mp known, more⟩
  · intro name known counts all
    have latest : counts.getLast? = if 1 < all then some all else none := by
      simp only [all, total_eq_references ctes distinct]
      exact faithful.latest name ((mem_declaredNames ctes name).mpr known)
    refine ⟨?_, ?_, faithful.ascending name ((mem_declaredNames ctes name).mpr known),
      (countsFor_tableNotices ctes tables name).1⟩
    · rw [ne_eq, ← List.getLast?_eq_none_iff, latest]
      by_cases more : 1 < all
      · simp [more]
      · simp [more]
    · intro last member
      rw [latest] at member
      split at member
      next => exact (Option.some.inj member).symm
      next => cases member

/-- An alias is read by two later entries. -/
def chained : List Cte :=
  [⟨bareName "a", readingFrom ["t"]⟩, ⟨bareName "b", readingFrom ["a"]⟩,
    ⟨bareName "C", readingFrom ["A"]⟩]

theorem messages_give_totals_chained :
    let query := { readingFrom ["c", "a"] with withClause := some chained }
    let all := total chained (tableNames (query.walkBody depthLimit 0)) "a"
    (chained.map declaredName).Nodup ∧ all = 3 ∧
      ∃ first later : List Notice,
        messages (.query query) = (first ++ later).map Notice.text ∧
        (countsFor "a" (first ++ later) ≠ [] ↔ 1 < all) ∧
        (∀ last ∈ (countsFor "a" (first ++ later)).getLast?, last = all) ∧
        (countsFor "a" later).Pairwise (· < ·) := by
  intro query all
  have distinct : (chained.map declaredName).Nodup := by decide +kernel
  have known : "a" ∈ chained.map declaredName := by decide +kernel
  obtain ⟨-, first, later, given, -, -, counts⟩ :=
    messages_give_totals (.query query) query chained rfl rfl distinct
  obtain ⟨some, last, -, rising⟩ := counts "a" known
  exact ⟨distinct, by decide +kernel, first, later, given, some, last, rising⟩

end QueryLint.Rule.SharedCte
