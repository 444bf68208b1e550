import Mathlib.Data.List.Basic
import QueryLint.Text.Digit

/-!
Numbers within a text. A decimal numeral is read as the number that it spells. It holds no space, so a
number that is followed by a space can be read off the text, and with it what comes after the space.
-/

namespace QueryLint.Text

/-- A text is divided by the first place that holds a mark. -/
theorem append_mark_inj {mark : Char} {letters others rest tail : List Char}
    (unmarked : mark ∉ letters) (unmarkedOther : mark ∉ others)
    (same : letters ++ mark :: rest = others ++ mark :: tail) :
    letters = others ∧ rest = tail := by
  have upToMark (before after : List Char) (absent : mark ∉ before) :
      (before ++ mark :: after).takeWhile (· ≠ mark) = before := by
    have passed : ∀ letter ∈ before, decide (letter ≠ mark) = true := by
      intro letter member
      exact decide_eq_true fun equal => absent (equal ▸ member)
    rw [List.takeWhile_append_of_pos passed]
    simp
  have front := congrArg (List.takeWhile (· ≠ mark)) same
  rw [upToMark letters rest unmarked, upToMark others tail unmarkedOther] at front
  subst front
  exact ⟨rfl, (List.cons.inj (List.append_cancel_left same)).2⟩

theorem space_not_mem_toDigits (count : Nat) : ' ' ∉ Nat.toDigits 10 count := by
  intro member
  have digit := Nat.isDigit_of_mem_toDigits (by decide) (by decide) member
  exact absurd digit (by decide)

theorem toDigits_injective : Function.Injective (Nat.toDigits 10) := by
  intro first second same
  have read := congrArg (Nat.ofDigitChars 10 · 0) same
  simpa only [Nat.ofDigitChars_ten_toDigits] using read

/-- A number before a space is read off the text. -/
theorem numeral_append_inj {first second : Nat} {rest tail : List Char}
    (same : Nat.toDigits 10 first ++ ' ' :: rest = Nat.toDigits 10 second ++ ' ' :: tail) :
    first = second ∧ rest = tail := by
  obtain ⟨digits, after⟩ :=
    append_mark_inj (space_not_mem_toDigits first) (space_not_mem_toDigits second) same
  exact ⟨toDigits_injective digits, after⟩

theorem foldlM_digits (digits : List Char) (spelt : ∀ c ∈ digits, c.isDigit = true) (value : Nat) :
    digits.foldlM (fun value c => if c.isDigit then some (10 * value + (c.toNat - 48)) else none)
      value = some (Nat.ofDigitChars 10 digits value) := by
  induction digits generalizing value with
  | nil => rfl
  | cons c rest ih =>
    have first : c.isDigit = true := spelt c List.mem_cons_self
    have others := ih fun d member => spelt d (List.mem_cons_of_mem _ member)
    rw [List.foldlM_cons, if_pos first, Nat.ofDigitChars_cons]
    exact others _

/-- A numeral is read as the number that it spells. -/
theorem number?_toDigits (count : Nat) : number? (Nat.toDigits 10 count) = some count := by
  have spelt : ∀ c ∈ Nat.toDigits 10 count, c.isDigit = true := fun c member =>
    Nat.isDigit_of_mem_toDigits (by decide) (by decide) member
  rw [number?, foldlM_digits _ spelt, Nat.ofDigitChars_ten_toDigits]

/-- Only ASCII digits are read. -/
theorem isDigit_of_foldlM {digits : List Char} {start value : Nat}
    (read : digits.foldlM
      (fun value c => if c.isDigit then some (10 * value + (c.toNat - 48)) else none) start =
        some value) :
    ∀ c ∈ digits, c.isDigit = true := by
  induction digits generalizing start with
  | nil => exact List.forall_mem_nil _
  | cons first rest ih =>
    by_cases digit : first.isDigit = true
    · rw [List.foldlM_cons, if_pos digit] at read
      exact List.forall_mem_cons.mpr ⟨digit, ih read⟩
    · rw [List.foldlM_cons, if_neg digit] at read
      cases read

/-- A run of characters is read as a number just if it consists of ASCII digits. -/
theorem number?_eq_some_iff (digits : List Char) (value : Nat) :
    number? digits = some value ↔
      (∀ c ∈ digits, c.isDigit = true) ∧ Nat.ofDigitChars 10 digits 0 = value := by
  constructor
  · intro read
    have ascii := isDigit_of_foldlM read
    rw [number?, foldlM_digits digits ascii] at read
    exact ⟨ascii, Option.some.inj read⟩
  · intro spelt
    rw [number?, foldlM_digits digits spelt.1, spelt.2]

end QueryLint.Text
