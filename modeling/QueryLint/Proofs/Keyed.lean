import Mathlib.Data.List.Nodup

/-!
Lists of values under names. Where no name is repeated, looking a name up tells whether the list
holds a value under it, so the order of the list does not matter.
-/

namespace QueryLint

variable {β : Type} {given other : List (String × β)}

theorem lookup_eq_some_iff_mem (distinct : (given.map (·.1)).Nodup) (name : String) (value : β) :
    given.lookup name = some value ↔ (name, value) ∈ given := by
  induction given with
  | nil => simp
  | cons entry rest ih =>
    obtain ⟨first, held⟩ := entry
    obtain ⟨fresh, distinctRest⟩ := List.nodup_cons.mp distinct
    by_cases here : name = first
    · subst here
      have later : (name, value) ∉ rest := fun member =>
        fresh (List.mem_map.mpr ⟨(name, value), member, rfl⟩)
      simp [later, eq_comm]
    · rw [List.lookup_cons, beq_eq_false_iff_ne.mpr here, ih distinctRest]
      simp [here]

theorem lookup_eq_none_iff_not_mem (name : String) :
    given.lookup name = none ↔ name ∉ given.map (·.1) := by
  rw [List.lookup_eq_none_iff, List.mem_map]
  constructor
  · rintro differs ⟨entry, member, rfl⟩
    exact absurd (differs entry member) (by simp)
  · intro absent entry member
    exact bne_iff_ne.mpr fun same => absent ⟨entry, member, same.symm⟩

/-- Lists without repeated keys are looked up alike if they hold the same values under the key. -/
theorem lookup_congr (distinct : (given.map (·.1)).Nodup) (distinctOther : (other.map (·.1)).Nodup)
    (name : String) (same : ∀ value, (name, value) ∈ given ↔ (name, value) ∈ other) :
    given.lookup name = other.lookup name := by
  apply Option.ext
  intro value
  rw [lookup_eq_some_iff_mem distinct, lookup_eq_some_iff_mem distinctOther, same]

theorem nodup_keys_zip {names : List String} (distinct : names.Nodup) (values : List β) :
    ((names.zip values).map (·.1)).Nodup := by
  induction names generalizing values with
  | nil => exact List.nodup_nil
  | cons name names ih =>
    obtain ⟨fresh, distinctRest⟩ := List.nodup_cons.mp distinct
    cases values with
    | nil => exact List.nodup_nil
    | cons value values =>
      rw [List.zip_cons_cons, List.map_cons, List.nodup_cons]
      refine ⟨?_, ih distinctRest values⟩
      intro member
      obtain ⟨⟨key, held⟩, zipped, rfl⟩ := List.mem_map.mp member
      exact fresh (List.of_mem_zip zipped).1

theorem lookup_zip {names : List String} (distinct : names.Nodup) (values : List β)
    (position : Nat) (name : String) (here : names[position]? = some name) :
    (names.zip values).lookup name = values[position]? := by
  induction names generalizing values position with
  | nil => cases here
  | cons first names ih =>
    obtain ⟨fresh, distinctRest⟩ := List.nodup_cons.mp distinct
    cases values with
    | nil => rfl
    | cons value values =>
      cases position with
      | zero =>
        cases here
        simp
      | succ position =>
        have different : name ≠ first := fun same =>
          fresh (same ▸ List.mem_of_getElem? here)
        rw [List.zip_cons_cons, List.lookup_cons, beq_eq_false_iff_ne.mpr different]
        exact ih distinctRest values position here

end QueryLint
