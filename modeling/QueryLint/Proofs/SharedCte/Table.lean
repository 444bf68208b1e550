import Mathlib.Data.List.Induction
import Mathlib.Data.List.Nodup
import Mathlib.Logic.Function.Basic
import QueryLint.Rule.SharedCte

/-!
Reference counts as a table. Counts that list each alias once are the values of a function at the
aliases, and every operation on the counts is an operation on that function: a declaration puts zero
at one alias, and a scan adds, at every alias, how often the scanned components name it.
-/

namespace QueryLint.Rule.SharedCte

/-- Puts a name at the end of some names, unless it is one of them. -/
def addName (names : List String) (name : String) : List String :=
  if name ∈ names then names else names ++ [name]

theorem nodup_addName (names : List String) (distinct : names.Nodup) (name : String) :
    (addName names name).Nodup := by
  by_cases known : name ∈ names
  · rwa [addName, if_pos known]
  · rw [addName, if_neg known]
    exact List.nodup_append_comm.mp (List.nodup_cons.mpr ⟨known, distinct⟩)

/-- Without repeats, each name stands where it first stood. -/
theorem eraseDups_concat (names : List String) (name : String) :
    (names ++ [name]).eraseDups = addName names.eraseDups name := by
  rw [List.eraseDups_append]
  by_cases known : name ∈ names
  · simp [addName, known, List.removeAll]
  · simp [addName, known, List.removeAll, List.eraseDups_cons]

theorem nodup_eraseDups (names : List String) : names.eraseDups.Nodup := by
  induction names using List.reverseRecOn with
  | nil => exact List.nodup_nil
  | append_singleton names name ih =>
    rw [eraseDups_concat]
    exact nodup_addName _ ih name

/-- The known names among some components. -/
theorem mem_named (names components : List String) (name : String) :
    name ∈ (components.filter (· ∈ names)).eraseDups ↔ name ∈ components ∧ name ∈ names := by
  rw [List.mem_eraseDups, List.mem_filter, decide_eq_true_iff]

/-- One notice for each of some names that has been read more than once. -/
def noticesOf (names : List String) (count : String → Nat) : List Notice :=
  names.filterMap fun name => notice? (name, count name)

namespace AliasCounts

/-- The counts that list some names, each with its value under a function. -/
def table (names : List String) (count : String → Nat) : AliasCounts :=
  names.map fun name => (name, count name)

variable (names : List String) (count : String → Nat)

theorem keys_table : (table names count).keys = names := by
  rw [keys, table, List.map_map]
  exact List.map_id names

theorem table_congr (other : String → Nat) (same : ∀ name ∈ names, count name = other name) :
    table names count = table names other := by
  apply List.map_congr_left
  intro name member
  rw [same name member]

theorem position?_table (name : String) :
    (table names count).position? name = names.idxOf? name := by
  simp only [position?, table, List.findIdx?_map, List.idxOf?]
  rfl

theorem position?_table_of_mem (name : String) (member : name ∈ names) :
    (table names count).position? name = some (names.idxOf name) := by
  have found : names.idxOf? name ≠ none := fun absent =>
    List.idxOf?_eq_none_iff.mp absent member
  obtain ⟨position, here⟩ := Option.ne_none_iff_exists'.mp found
  rw [position?_table, List.idxOf_eq_getD_idxOf?, here, Option.getD_some]

theorem position?_table_of_not_mem (name : String) (fresh : name ∉ names) :
    (table names count).position? name = none := by
  rw [position?_table]
  exact List.idxOf?_eq_none_iff.mpr fresh

theorem getElem?_table_idxOf (name : String) (member : name ∈ names) :
    (table names count)[names.idxOf name]? = some (name, count name) := by
  rw [table, List.getElem?_map, List.getElem?_idxOf member, Option.map_some]

/-- A change of the entry of one alias is a change of the function at that alias. -/
theorem modify_table (distinct : names.Nodup) (name : String) (member : name ∈ names)
    (change : String × Nat → String × Nat) (value : Nat)
    (changed : change (name, count name) = (name, value)) :
    (table names count).modify (names.idxOf name) change =
      table names (Function.update count name value) := by
  apply List.ext_getElem?
  intro position
  rw [List.getElem?_modify]
  by_cases here : names.idxOf name = position
  · subst here
    simp [getElem?_table_idxOf, member, changed]
  · simp only [table, List.getElem?_map, if_neg here, id_map']
    cases found : names[position]? with
    | none => rfl
    | some other =>
      have different : other ≠ name := by
        intro same
        apply here
        subst same
        obtain ⟨bound, valued⟩ := List.getElem?_eq_some_iff.mp found
        rw [← valued]
        exact distinct.idxOf_getElem position bound
      simp [Function.update_of_ne different]

theorem register_table (distinct : names.Nodup) (name : String) :
    (table names count).register name =
      table (addName names name) (Function.update count name 0) := by
  by_cases known : name ∈ names
  · rw [addName, if_pos known, register, position?_table_of_mem names count name known]
    have replaced := modify_table names count distinct name known (fun _ => (name, 0)) 0 rfl
    simpa [List.modify_eq_set, getElem?_table_idxOf names count name known] using replaced
  · rw [addName, if_neg known, register, position?_table_of_not_mem names count name known]
    have kept : table names count = table names (Function.update count name 0) := by
      apply table_congr
      intro other member
      have different : other ≠ name := fun same => known (same ▸ member)
      rw [Function.update_of_ne different]
    simp only [kept]
    simp [table]

theorem increment_table (distinct : names.Nodup) (name : String) (member : name ∈ names) :
    (table names count).increment (names.idxOf name) =
      table names (Function.update count name (count name + 1)) :=
  modify_table names count distinct name member _ _ rfl

/-- The positions touched so far are those of the names met so far, in the order they were met. -/
theorem scanComponent_table (distinct : names.Nodup) (met : List String)
    (declared : ∀ name ∈ met, name ∈ names) (component : String) (member : component ∈ names) :
    scanComponent (table names count, met.map names.idxOf) component =
      (table names (Function.update count component (count component + 1)),
        (addName met component).map names.idxOf) := by
  have touched : names.idxOf component ∈ met.map names.idxOf ↔ component ∈ met := by
    constructor
    · intro here
      obtain ⟨name, present, same⟩ := List.mem_map.mp here
      have equal : name = component := (List.idxOf_inj (declared name present)).mp same
      exact equal ▸ present
    · exact List.mem_map_of_mem
  rw [scanComponent, position?_table_of_mem names count component member]
  simp only [increment_table names count distinct component member, List.contains_iff_mem, touched]
  by_cases again : component ∈ met
  · rw [addName, if_pos again, if_pos again]
  · rw [addName, if_neg again, if_neg again, List.map_append, List.map_singleton]

theorem scanComponent_table_of_not_mem (touched : List Nat) (component : String)
    (fresh : component ∉ names) :
    scanComponent (table names count, touched) component = (table names count, touched) := by
  rw [scanComponent, position?_table_of_not_mem names count component fresh]

/-- A scan adds to each alias the number of components that name it, and touches the aliases named,
in the order of their first mention. -/
theorem scan_table (distinct : names.Nodup) (components : List String) :
    (table names count).scan components =
      (table names fun name => count name + components.count name,
        (components.filter (· ∈ names)).eraseDups.map names.idxOf) := by
  induction components using List.reverseRecOn with
  | nil => rfl
  | append_singleton before component ih =>
    rw [scan] at ih ⊢
    rw [List.foldl_append, ih, List.foldl_cons, List.foldl_nil]
    by_cases member : component ∈ names
    · have declared : ∀ name ∈ (before.filter (· ∈ names)).eraseDups, name ∈ names :=
        fun name present => ((mem_named names before name).mp present).2
      have counted : Function.update (fun name => count name + before.count name) component
          (count component + before.count component + 1) =
            fun name => count name + (before ++ [component]).count name := by
        funext name
        by_cases same : name = component
        · subst same
          simp [Nat.add_assoc]
        · simp [Function.update_of_ne same, Ne.symm same]
      rw [scanComponent_table names _ distinct _ declared component member, counted]
      simp [eraseDups_concat, member]
    · rw [scanComponent_table_of_not_mem names _ _ component member]
      have counted : table names (fun name => count name + before.count name) =
          table names fun name => count name + (before ++ [component]).count name := by
        apply table_congr
        intro name declared
        have different : component ≠ name := fun same => member (same ▸ declared)
        simp [different]
      rw [counted]
      simp [member]

theorem noticeAll_table : noticeAll (table names count) = noticesOf names count := by
  rw [noticeAll, table, List.filterMap_map]
  rfl

theorem noticeAt_table (named : List String) (declared : ∀ name ∈ named, name ∈ names) :
    noticeAt (table names count) (named.map names.idxOf) = noticesOf named count := by
  rw [noticeAt, List.filterMap_map]
  apply List.filterMap_congr
  intro name member
  rw [Function.comp_apply, getElem?_table_idxOf names count name (declared name member),
    Option.bind_some]

end AliasCounts

end QueryLint.Rule.SharedCte
