import Mathlib.Algebra.GroupWithZero.Nat
import Mathlib.Data.List.Basic
import QueryLint.Text.Case

/-!
Line breaks in a text. They add up when texts are joined, a numeral holds none, and lower-casing a
text neither makes nor removes one.
-/

namespace QueryLint.Text

def lineBreaks (text : String) : Nat := text.toList.count '\n'

@[simp]
theorem lineBreaks_append (first second : String) :
    lineBreaks (first ++ second) = lineBreaks first + lineBreaks second := by
  rw [lineBreaks, String.toList_append, List.count_append]
  rfl

theorem lineBreaks_join (texts : List String) :
    lineBreaks (String.join texts) = (texts.map lineBreaks).sum := by
  induction texts with
  | nil => rfl
  | cons text rest ih => rw [String.join_cons, lineBreaks_append, ih, List.map_cons, List.sum_cons]

theorem count_lineBreak_toDigits (number : Nat) : (Nat.toDigits 10 number).count '\n' = 0 := by
  apply List.count_eq_zero.mpr
  intro member
  have digit := Nat.isDigit_of_mem_toDigits (by decide) (by decide) member
  exact absurd digit (by decide)

@[simp]
theorem lineBreaks_repr (number : Nat) : lineBreaks (Nat.repr number) = 0 := by
  rw [lineBreaks, Nat.toList_repr, count_lineBreak_toDigits]

theorem eq_ten_of_ofNat {code : Nat} (same : Char.ofNat code = '\n') : code = 10 := by
  rw [Char.ofNat] at same
  by_cases valid : code.isValidChar
  · rw [dif_pos valid] at same
    exact congrArg Char.toNat same
  · rw [dif_neg valid] at same
    exact absurd (congrArg Char.toNat same) (by decide)

/-- No capital is a line break, and no small letter is one. -/
theorem caseRuns_above_lineBreak :
    ∀ run ∈ caseRuns, 10 < run.first ∧ 10 < (run.first : Int) + run.offset := by
  have all : (caseRuns.all fun run =>
      decide (10 < run.first ∧ 10 < (run.first : Int) + run.offset)) = true := by decide +kernel
  intro run member
  exact of_decide_eq_true (List.all_eq_true.mp all run member)

theorem count_lineBreak_lowerChar (c : Char) : (lowerChar c).count '\n' = [c].count '\n' := by
  rw [lowerChar]
  split
  next dotted =>
    rw [dotted]
    decide
  next =>
    cases found : caseRuns.find? (·.covers c) with
    | none => rfl
    | some run =>
      obtain ⟨first, lowered⟩ := caseRuns_above_lineBreak run (List.mem_of_find?_eq_some found)
      have covered := List.find?_some found
      simp only [CaseRun.covers, Bool.and_eq_true, decide_eq_true_eq] at covered
      have capital : c ≠ '\n' := by
        rintro rfl
        have bound : run.first ≤ 10 := covered.1.1
        omega
      have small : run.lower c ≠ '\n' := by
        intro same
        have code := eq_ten_of_ofNat same
        omega
      rw [List.count_singleton, List.count_singleton, beq_eq_false_iff_ne.mpr capital,
        beq_eq_false_iff_ne.mpr small]

theorem count_lineBreak_lowerFrom (before rest : List Char) :
    (lowerFrom before rest).count '\n' = rest.count '\n' := by
  induction rest generalizing before with
  | nil => rfl
  | cons c rest ih =>
    have first : (if c = 'Σ' then [if endsWord before rest then 'ς' else 'σ']
        else lowerChar c).count '\n' = [c].count '\n' := by
      split
      next sigma =>
        rw [sigma]
        split <;> decide
      next => exact count_lineBreak_lowerChar c
    rw [lowerFrom, List.count_append, ih, first, ← List.count_append, List.singleton_append]

theorem lineBreaks_lowercase (text : String) : lineBreaks (lowercase text) = lineBreaks text := by
  rw [lineBreaks, lowercase, String.toList_ofList, count_lineBreak_lowerFrom]
  rfl

end QueryLint.Text
