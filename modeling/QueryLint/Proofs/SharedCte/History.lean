import Mathlib.Data.List.DropRight
import QueryLint.Proofs.SharedCte.References

/-!
Reference counts after any history of declarations and table names, in whatever order they come.

Main statement: the counts list the registered names once each, in the order of first registration,
and no later operation moves a name from its place. The count of a name is the number of mentions in
the table names scanned since its latest registration. A scan gives the positions that it changed,
in the order in which the table name first mentions the names that stand there.
-/

namespace QueryLint.Rule.SharedCte

open Sql AliasCounts

/-- One use of the counts. -/
inductive Operation
  | register (ident : Ident)
  | scan (table : ObjectName)

namespace Operation

def registered? : Operation → Option String
  | register ident => some (Text.lowercase ident.value)
  | scan _ => none

def scanned? : Operation → Option ObjectName
  | register _ => none
  | scan table => some table

/-- The counts that an operation leaves. -/
def apply (counts : AliasCounts) : Operation → AliasCounts
  | register ident => counts.register (Text.lowercase ident.value)
  | scan table => (counts.scan (components table)).1

end Operation

/-- The counts after some operations, if there were none before. -/
def countsAfter (history : List Operation) : AliasCounts := history.foldl Operation.apply []

/-- The registered names, in the order of first registration. -/
def registeredNames (history : List Operation) : List String :=
  (history.filterMap Operation.registered?).eraseDups

/-- The operations after the latest one that registers a name. -/
def sinceRegistered (name : String) (history : List Operation) : List Operation :=
  history.rtakeWhile fun operation => operation.registered? ≠ some name

/-- How often a name is mentioned in the table names scanned since it was last registered. -/
def mentionsSince (history : List Operation) (name : String) : Nat :=
  mentions ((sinceRegistered name history).filterMap Operation.scanned?) name

/-- The counts list the registered names once each, in the order of first registration, and each with
its mentions since the latest registration. -/
structure Tallies (history : List Operation) (counts : AliasCounts) : Prop where
  distinct : counts.keys.Nodup
  ordered : counts.keys = registeredNames history
  counted : ∀ entry ∈ counts, ∃ before ident later, history = before ++ .register ident :: later ∧
    Text.lowercase ident.value = entry.1 ∧
    (∀ operation ∈ later, operation.registered? ≠ some entry.1) ∧
    entry.2 = mentions (later.filterMap Operation.scanned?) entry.1

/-- What a scan of some components leaves, and the positions that it gives. -/
structure Scanned (counts : AliasCounts) (components : List String)
    (result : AliasCounts × List Nat) : Prop where
  keys_eq : result.1.keys = counts.keys
  counted : result.1 = counts.map fun entry => (entry.1, entry.2 + components.count entry.1)
  named : result.2.map (counts.keys[·]?) =
    (components.filter (· ∈ counts.keys)).eraseDups.map some
  distinct : result.2.Nodup
  changed : ∀ position, position ∈ result.2 ↔ result.1[position]? ≠ counts[position]?

theorem countsAfter_concat (history : List Operation) (operation : Operation) :
    countsAfter (history ++ [operation]) = operation.apply (countsAfter history) := by
  rw [countsAfter, List.foldl_append]
  rfl

theorem registeredNames_register (history : List Operation) (ident : Ident) :
    registeredNames (history ++ [.register ident]) =
      addName (registeredNames history) (Text.lowercase ident.value) := by
  rw [registeredNames, List.filterMap_append]
  exact eraseDups_concat _ _

theorem registeredNames_scan (history : List Operation) (table : ObjectName) :
    registeredNames (history ++ [.scan table]) = registeredNames history := by
  rw [registeredNames, List.filterMap_append, List.filterMap_cons_none rfl, List.filterMap_nil,
    List.append_nil]
  rfl

theorem sinceRegistered_same (history : List Operation) (ident : Ident) :
    sinceRegistered (Text.lowercase ident.value) (history ++ [.register ident]) = [] :=
  List.rtakeWhile_concat_neg _ _ _ (by simp [Operation.registered?])

theorem sinceRegistered_concat (history : List Operation) (operation : Operation) (name : String)
    (other : operation.registered? ≠ some name) :
    sinceRegistered name (history ++ [operation]) = sinceRegistered name history ++ [operation] :=
  List.rtakeWhile_concat_pos _ _ _ (decide_eq_true other)

/-- A registration starts its name afresh and leaves the other names as they are. -/
theorem mentionsSince_register (history : List Operation) (ident : Ident) :
    mentionsSince (history ++ [.register ident]) =
      Function.update (mentionsSince history) (Text.lowercase ident.value) 0 := by
  funext name
  by_cases same : name = Text.lowercase ident.value
  · subst same
    rw [Function.update_self, mentionsSince, sinceRegistered_same]
    rfl
  · have other : (Operation.register ident).registered? ≠ some name := by
      simpa [Operation.registered?] using Ne.symm same
    rw [Function.update_of_ne same, mentionsSince, sinceRegistered_concat _ _ _ other,
      List.filterMap_append, List.filterMap_cons_none rfl, List.filterMap_nil, List.append_nil]
    rfl

theorem mentionsSince_scan (history : List Operation) (table : ObjectName) (name : String) :
    mentionsSince (history ++ [.scan table]) name =
      mentionsSince history name + (components table).count name := by
  have other : (Operation.scan table).registered? ≠ some name := nofun
  have single : mentions ([Operation.scan table].filterMap Operation.scanned?) name =
      (components table).count name := by
    show mentions [table] name = _
    rw [mentions, List.flatMap_singleton]
  rw [mentionsSince, sinceRegistered_concat _ _ _ other, List.filterMap_append, mentions_append,
    single]
  rfl

theorem countsAfter_eq_table (history : List Operation) :
    countsAfter history = table (registeredNames history) (mentionsSince history) := by
  induction history using List.reverseRecOn with
  | nil => rfl
  | append_singleton history operation ih =>
    have distinct : (registeredNames history).Nodup := nodup_eraseDups _
    rw [countsAfter_concat, ih]
    -- The names and the mentions of a history change just as the table does.
    cases operation with
    | register ident =>
      rw [Operation.apply, register_table _ _ distinct, registeredNames_register,
        mentionsSince_register]
    | scan path =>
      rw [Operation.apply, scan_table _ _ distinct, registeredNames_scan]
      apply table_congr
      intro name _
      rw [mentionsSince_scan]

theorem isPrefix_registeredNames (history later : List Operation) :
    registeredNames history <+: registeredNames (history ++ later) := by
  rw [registeredNames, registeredNames, List.filterMap_append, List.eraseDups_append]
  exact List.prefix_append _ _

/-- A registered name has a latest registration, which divides the history in two. -/
theorem exists_latest_register (history : List Operation) (name : String)
    (known : name ∈ registeredNames history) :
    ∃ before ident, history = before ++ .register ident :: sinceRegistered name history ∧
      Text.lowercase ident.value = name ∧
      ∀ operation ∈ sinceRegistered name history, operation.registered? ≠ some name := by
  induction history using List.reverseRecOn with
  | nil => cases known
  | append_singleton history operation ih =>
    by_cases latest : operation.registered? = some name
    · cases operation with
      | scan path => cases latest
      | register ident =>
        have same : Text.lowercase ident.value = name := Option.some.inj latest
        subst same
        rw [sinceRegistered_same]
        exact ⟨history, ident, rfl, rfl, by simp⟩
    · have earlier : name ∈ registeredNames history := by
        rw [registeredNames, List.mem_eraseDups] at known ⊢
        obtain ⟨other, member, named⟩ := List.mem_filterMap.mp known
        rcases List.mem_append.mp member with before | last
        · exact List.mem_filterMap.mpr ⟨other, before, named⟩
        · rw [List.mem_singleton.mp last] at named
          exact absurd named latest
      obtain ⟨before, ident, divided, same, silent⟩ := ih earlier
      rw [sinceRegistered_concat _ _ _ latest]
      refine ⟨before, ident, ?_, same, ?_⟩
      · conv_lhs => rw [divided]
        simp
      · intro other member
        rcases List.mem_append.mp member with since | last
        · exact silent other since
        · rwa [List.mem_singleton.mp last]

theorem tallies_countsAfter (history : List Operation) : Tallies history (countsAfter history) := by
  have distinct : (registeredNames history).Nodup := nodup_eraseDups _
  rw [countsAfter_eq_table]
  refine ⟨?_, keys_table _ _, ?_⟩
  · rwa [keys_table]
  · intro entry member
    obtain ⟨name, known, rfl⟩ := List.mem_map.mp member
    obtain ⟨before, ident, divided, same, silent⟩ := exists_latest_register history name known
    exact ⟨before, ident, sinceRegistered name history, divided, same, silent, rfl⟩

/-- A name registered again is reset where it stands, and a new one goes to the end. -/
theorem register_table_eq (names : List String) (count : String → Nat) (distinct : names.Nodup)
    (name : String) :
    (table names count).register name =
      if name ∈ (table names count).keys then
        (table names count).map fun entry => if entry.1 = name then (entry.1, 0) else entry
      else table names count ++ [(name, 0)] := by
  rw [keys_table]
  by_cases known : name ∈ names
  · rw [if_pos known, register_table names count distinct, addName, if_pos known, table, table,
      List.map_map]
    apply List.map_congr_left
    intro other _
    by_cases same : other = name
    · simp [same]
    · simp [same, Function.update_of_ne]
  · rw [if_neg known, register, position?_table_of_not_mem names count name known]

/-- The positions that a scan gives are those of the counts that it changes. -/
theorem scan_changes (names : List String) (count : String → Nat) (distinct : names.Nodup)
    (components : List String) (position : Nat) :
    position ∈ (components.filter (· ∈ names)).eraseDups.map names.idxOf ↔
      (table names fun name => count name + components.count name)[position]? ≠
        (table names count)[position]? := by
  rw [table, table, List.getElem?_map, List.getElem?_map]
  constructor
  · intro member
    obtain ⟨name, present, rfl⟩ := List.mem_map.mp member
    obtain ⟨mentioned, known⟩ := (mem_named names components name).mp present
    have positive : 0 < components.count name := List.count_pos_iff.mpr mentioned
    rw [List.getElem?_idxOf known]
    intro same
    have equal : count name + components.count name = count name := by simpa using same
    omega
  · intro differ
    cases found : names[position]? with
    | none => simp [found] at differ
    | some name =>
      obtain ⟨bound, here⟩ := List.getElem?_eq_some_iff.mp found
      have mentioned : name ∈ components := by
        by_contra absent
        simp [found, List.count_eq_zero_of_not_mem absent] at differ
      have known : name ∈ names := List.mem_of_getElem? found
      refine List.mem_map.mpr ⟨name, (mem_named names components name).mpr ⟨mentioned, known⟩, ?_⟩
      rw [← here]
      exact distinct.idxOf_getElem position bound

theorem scanned_table (names : List String) (count : String → Nat) (distinct : names.Nodup)
    (components : List String) :
    Scanned (table names count) components ((table names count).scan components) := by
  rw [scan_table names count distinct]
  have known : ∀ name ∈ (components.filter (· ∈ names)).eraseDups, name ∈ names :=
    fun name present => ((mem_named names components name).mp present).2
  refine ⟨?_, ?_, ?_, ?_, ?_⟩
  · rw [keys_table, keys_table]
  · simp [table]
  · rw [keys_table, List.map_map]
    apply List.map_congr_left
    intro name present
    exact List.getElem?_idxOf (known name present)
  · apply List.Nodup.map_on _ (nodup_eraseDups _)
    intro left present right _ same
    exact (List.idxOf_inj (known left present)).mp same
  · exact scan_changes names count distinct components

/-- After any history the counts tally the mentions of the registered names, and a name keeps its
place whatever comes later. One more registration resets its name in place or adds it at the end,
and one more scan gives the positions that it changes. -/
theorem counts_follow_history (history : List Operation) :
    let counts := countsAfter history
    Tallies history counts ∧
      (∀ later, counts.keys <+: (countsAfter (history ++ later)).keys) ∧
      (∀ ident, countsAfter (history ++ [.register ident]) =
        if Text.lowercase ident.value ∈ counts.keys then
          counts.map fun entry =>
            if entry.1 = Text.lowercase ident.value then (entry.1, 0) else entry
        else counts ++ [(Text.lowercase ident.value, 0)]) ∧
      ∀ path, countsAfter (history ++ [.scan path]) = (counts.scan (components path)).1 ∧
        Scanned counts (components path) (counts.scan (components path)) := by
  intro counts
  have tabled : counts = table (registeredNames history) (mentionsSince history) :=
    countsAfter_eq_table history
  have distinct : (registeredNames history).Nodup := nodup_eraseDups _
  refine ⟨tallies_countsAfter history, ?_, ?_, ?_⟩
  · intro later
    rw [(tallies_countsAfter history).ordered, (tallies_countsAfter (history ++ later)).ordered]
    exact isPrefix_registeredNames history later
  · intro ident
    have stepped : countsAfter (history ++ [.register ident]) =
        counts.register (Text.lowercase ident.value) := countsAfter_concat history (.register ident)
    rw [stepped, tabled]
    exact register_table_eq _ _ distinct _
  · intro path
    refine ⟨countsAfter_concat history (.scan path), ?_⟩
    rw [tabled]
    exact scanned_table _ _ distinct (components path)

/-- A table is read before its name is registered, and `a` is registered again between readings. The
last table names both, `b` first and `a` twice. -/
example :
    let reads (path : List String) : Operation :=
      .scan (path.map fun value => .ident (bareName value))
    let history := [reads ["a"], .register (bareName "a"), .register (bareName "b"),
      reads ["a", "b"], .register (bareName "A")]
    countsAfter history = [("a", 0), ("b", 1)] ∧
      (countsAfter history).scan ["b", "a", "c", "a"] = ([("a", 2), ("b", 2)], [1, 0]) := by
  decide +kernel

end QueryLint.Rule.SharedCte
