import Mathlib.Algebra.Group.Int.Defs
import Mathlib.Data.List.Basic
import QueryLint.Json.Parser
import QueryLint.Json.Printer

/-!
JSON text is read as the value that it was written from.

A layout may put blanks between the parts of a value, and a reader passes over them. Main statement:
a value without fractions reads back from its text in any such layout, so two layouts of one value
say the same. The budget of the reader is the length of the text, and no part needs more of it than
it has characters.
-/

namespace QueryLint.Json

open QueryLint.Json.Parser

/-! ### Blanks -/

def AllBlank (text : List Char) : Prop := ∀ c ∈ text, isBlank c = true

/-- A layout that writes only blanks. -/
structure Layout.Blank (layout : Layout) : Prop where
  lineBreak : ∀ level, AllBlank (layout.lineBreak level)
  afterColon : AllBlank layout.afterColon

theorem Layout.blank_compact : Layout.compact.Blank :=
  ⟨fun _ => List.forall_mem_nil _, List.forall_mem_nil _⟩

theorem Layout.blank_pretty : Layout.pretty.Blank := by
  constructor
  · intro level c member
    rcases List.mem_cons.mp member with rfl | space
    · decide
    · rw [List.eq_of_mem_replicate space]
      decide
  · exact List.forall_mem_singleton.mpr (by decide)

theorem isBlank_cases {c : Char} (blank : isBlank c = true) :
    c = ' ' ∨ c = '\n' ∨ c = '\r' ∨ c = '\t' := by
  simpa [isBlank, or_assoc] using blank

theorem skipBlanks_append {before : List Char} (blank : AllBlank before) (text : List Char) :
    skipBlanks (before ++ text) = skipBlanks text :=
  List.dropWhile_append_of_pos blank

theorem skipBlanks_cons {c : Char} (solid : isBlank c = false) (text : List Char) :
    skipBlanks (c :: text) = c :: text :=
  List.dropWhile_cons_of_neg (by simp [solid])

/-! ### Strings -/

theorem hexValue?_digitChar {digit : Nat} (small : digit < 16) :
    hexValue? (Nat.digitChar digit) = some digit := by
  have each : ∀ digit < 16, hexValue? (Nat.digitChar digit) = some digit := by decide
  exact each digit small

/-- A control character is read back from its number in hexadecimal digits. -/
theorem codePoint?_control {c : Char} (control : c.toNat < 0x20) (rest : List Char) :
    codePoint?
      ('0' :: '0' :: Nat.digitChar (c.toNat / 16) :: Nat.digitChar (c.toNat % 16) :: rest) =
        some (c, rest) := by
  have zero : hexValue? '0' = some 0 := by decide
  have high := hexValue?_digitChar (show c.toNat / 16 < 16 by omega)
  have low := hexValue?_digitChar (show c.toNat % 16 < 16 by omega)
  have number : ((0 * 16 + 0) * 16 + c.toNat / 16) * 16 + c.toNat % 16 = c.toNat := by omega
  have plain : ¬(0xD800 ≤ c.toNat ∧ c.toNat < 0xDC00) := by omega
  have scalar : scalar? c.toNat = some c := by
    rw [scalar?, if_pos (by omega), Char.ofNat_toNat]
  unfold codePoint? unit?
  simp only [zero, high, low, Option.bind_eq_bind, Option.bind_some, Option.pure_def, number,
    if_neg plain, scalar]

/-- A character stands for itself, or it is what stands behind a backslash. -/
theorem escapedChar_cases (c : Char) :
    (escapedChar c = [c] ∧ c ≠ '"' ∧ c ≠ '\\' ∧ ¬c.toNat < 0x20) ∨
      ∃ code, escapedChar c = '\\' :: code ∧ ∀ rest, escape? (code ++ rest) = some (c, rest) := by
  unfold escapedChar
  split_ifs with quote slash back feed line ret tab control
  -- Seven characters have a letter of their own.
  iterate 7
    · subst c
      exact .inr ⟨_, rfl, fun _ => rfl⟩
  · exact .inr ⟨_, rfl, codePoint?_control control⟩
  · exact .inl ⟨rfl, quote, slash, control⟩

theorem string?_flatMap (letters rest : List Char) (budget : Nat)
    (enough : letters.length < budget) :
    string? budget (letters.flatMap escapedChar ++ '"' :: rest) = some (letters, rest) := by
  induction letters generalizing budget with
  | nil =>
    cases budget with
    | zero => cases enough
    | succ budget => rfl
  | cons c letters ih =>
    cases budget with
    | zero => cases enough
    | succ budget =>
      have later := ih budget (Nat.lt_of_succ_lt_succ enough)
      rw [List.flatMap_cons, List.append_assoc]
      rcases escapedChar_cases c with ⟨same, quote, slash, control⟩ | ⟨code, written, read⟩
      · rw [same, List.singleton_append, string?, if_neg quote, if_neg slash, if_neg control, later]
        rfl
      · rw [written, List.cons_append, string?, if_neg (by decide), if_pos rfl, read]
        simp only [Option.bind_eq_bind, Option.bind_some, later, Option.pure_def]

/-! ### Numbers -/

/-- A text that does not go on with a number. -/
def EndsNumber (rest : List Char) : Prop :=
  ∀ c ∈ rest.head?, c.isDigit = false ∧ c ≠ '.' ∧ c ≠ 'e' ∧ c ≠ 'E'

theorem endsNumber_append {before rest : List Char} (blank : AllBlank before)
    (ends : EndsNumber rest) : EndsNumber (before ++ rest) := by
  cases before with
  | nil => exact ends
  | cons first before =>
    intro c head
    cases head
    rcases isBlank_cases (blank first List.mem_cons_self) with rfl | rfl | rfl | rfl <;> decide

theorem endsNumber_cons (mark : Char) (rest : List Char)
    (apart : mark.isDigit = false ∧ mark ≠ '.' ∧ mark ≠ 'e' ∧ mark ≠ 'E') :
    EndsNumber (mark :: rest) := by
  intro c head
  cases head
  exact apart

theorem span_digits {digits rest : List Char} (all : ∀ c ∈ digits, c.isDigit = true)
    (ends : EndsNumber rest) :
    (digits ++ rest).takeWhile Char.isDigit = digits ∧
      (digits ++ rest).dropWhile Char.isDigit = rest := by
  rw [List.takeWhile_append_of_pos all, List.dropWhile_append_of_pos all]
  cases rest with
  | nil => exact ⟨List.append_nil digits, rfl⟩
  | cons c rest =>
    have other : ¬c.isDigit = true := by simp [(ends c rfl).1]
    rw [List.takeWhile_cons_of_neg other, List.dropWhile_cons_of_neg other]
    exact ⟨List.append_nil digits, rfl⟩

theorem fraction?_of_ends {rest : List Char} (ends : EndsNumber rest) :
    fraction? rest = some ([], rest) := by
  unfold fraction?
  split
  next tail => exact absurd rfl (ends '.' rfl).2.1
  next => rfl

theorem exponent?_of_ends {rest : List Char} (ends : EndsNumber rest) :
    exponent? rest = some (none, rest) := by
  unfold exponent?
  split
  next tail => exact absurd rfl (ends 'e' rfl).2.2.1
  next tail => exact absurd rfl (ends 'E' rfl).2.2.2
  next => rfl

/-- No numeral but that of zero starts with a zero. -/
theorem head?_toDigits_ne_zero (count : Nat) (positive : 0 < count) :
    (Nat.toDigits 10 count).head? ≠ some '0' := by
  induction count using Nat.strongRecOn with
  | ind count ih =>
    by_cases small : count < 10
    · rw [Nat.toDigits_of_lt_base small, List.head?_cons]
      intro zero
      have := Nat.digitChar_eq_zero.mp (Option.some.inj zero)
      omega
    · rw [Nat.toDigits_of_base_le (by decide) (Nat.not_lt.mp small),
        List.head?_append_of_ne_nil _ Nat.toDigits_ne_nil]
      exact ih (count / 10) (by omega) (by omega)

theorem magnitude?_toDigits (negative : Bool) (count : Nat) {rest : List Char}
    (ends : EndsNumber rest) {value : Int} (kept : integer? negative count = some value) :
    magnitude? negative (Nat.toDigits 10 count ++ rest) = some (.integer value, rest) := by
  have digits : ∀ c ∈ Nat.toDigits 10 count, c.isDigit = true := fun _ member =>
    Nat.isDigit_of_mem_toDigits (by decide) (by decide) member
  obtain ⟨taken, dropped⟩ := span_digits digits ends
  have proper : ¬(Nat.toDigits 10 count = [] ∨
      ((Nat.toDigits 10 count).head? = some '0' ∧ 1 < (Nat.toDigits 10 count).length)) := by
    rintro (empty | ⟨zero, long⟩)
    · exact Nat.toDigits_ne_nil empty
    · rcases Nat.eq_zero_or_pos count with rfl | positive
      · exact absurd long (by decide)
      · exact head?_toDigits_ne_zero count positive zero
  have spelt : digitsValue (Nat.toDigits 10 count) = count := Nat.ofDigitChars_ten_toDigits
  unfold magnitude?
  simp only [taken, dropped, if_neg proper, fraction?_of_ends ends, exponent?_of_ends ends,
    Option.bind_eq_bind, Option.bind_some, spelt, kept, and_self, if_true, Option.pure_def]

theorem exists_toDigits_cons (count : Nat) :
    ∃ c more, Nat.toDigits 10 count = c :: more ∧ c.isDigit = true := by
  obtain ⟨c, more, shape⟩ := List.exists_cons_of_ne_nil (Nat.toDigits_ne_nil (n := count) (b := 10))
  refine ⟨c, more, shape, ?_⟩
  apply Nat.isDigit_of_mem_toDigits (b := 10) (n := count) (by decide) (by decide)
  rw [shape]
  exact List.mem_cons_self

/-- A character that a number starts with. -/
def StartsNumber (c : Char) : Prop := c.isDigit = true ∨ c = '-'

instance (c : Char) : Decidable (StartsNumber c) := inferInstanceAs (Decidable (_ ∨ _))

theorem StartsNumber.ne {c other : Char} (start : StartsNumber c) (apart : ¬StartsNumber other) :
    c ≠ other := by
  rintro rfl
  exact apart start

theorem StartsNumber.solid {c : Char} (start : StartsNumber c) : isBlank c = false := by
  by_contra blank
  rcases isBlank_cases (by simpa using blank) with rfl | rfl | rfl | rfl <;>
    exact absurd start (by decide)

theorem exists_integerChars_cons (value : Int) :
    ∃ c more, integerChars value = c :: more ∧ StartsNumber c := by
  rw [integerChars]
  split
  · exact ⟨_, _, rfl, .inr rfl⟩
  · obtain ⟨c, more, shape, digit⟩ := exists_toDigits_cons value.natAbs
    exact ⟨c, more, shape, .inl digit⟩

theorem number?_integerChars {value : Int} (lower : -2 ^ 63 ≤ value) (upper : value < 2 ^ 64)
    {rest : List Char} (ends : EndsNumber rest) :
    number? (integerChars value ++ rest) = some (.integer value, rest) := by
  have bound : (wordBound : Int) = 2 ^ 64 := by decide
  unfold integerChars
  by_cases negative : value < 0
  · have kept : integer? true value.natAbs = some value := by
      rw [integer?, if_pos rfl, if_pos (by omega)]
      exact congrArg some (by omega)
    rw [if_pos negative]
    exact magnitude?_toDigits true _ ends kept
  · have kept : integer? false value.natAbs = some value := by
      rw [integer?, if_neg (by decide), if_pos (by omega)]
      exact congrArg some (by omega)
    obtain ⟨first, more, shape, digit⟩ := exists_toDigits_cons value.natAbs
    rw [if_neg negative, List.nil_append, ← magnitude?_toDigits false _ ends kept, shape]
    unfold number?
    split
    next tail minus =>
      cases (List.cons.inj minus).1
      exact absurd digit (by decide)
    next => rfl

/-! ### Values -/

/-- A value whose numbers are whole and of the size that is kept as it is. -/
inductive Integral : Json → Prop
  | null : Integral .null
  | bool (value : Bool) : Integral (.bool value)
  | integer {value : Int} (lower : -2 ^ 63 ≤ value) (upper : value < 2 ^ 64) :
      Integral (.number (.integer value))
  | string (value : String) : Integral (.string value)
  | array {items : List Json} (each : ∀ item ∈ items, Integral item) : Integral (.array items)
  | object {fields : List (String × Json)} (each : ∀ field ∈ fields, Integral field.2) :
      Integral (.object fields)

/-- The text of a value starts with a character that is neither a blank nor a closing bracket. -/
theorem exists_chars_cons (layout : Layout) (level : Nat) {value : Json}
    (integral : Integral value) :
    ∃ c more, value.chars layout level = c :: more ∧ isBlank c = false ∧ c ≠ ']' := by
  cases integral with
  | null => exact ⟨_, _, rfl, by decide, by decide⟩
  | bool value => cases value <;> exact ⟨_, _, rfl, by decide, by decide⟩
  | @integer number _ _ =>
    obtain ⟨c, more, shape, start⟩ := exists_integerChars_cons number
    exact ⟨c, more, shape, start.solid, start.ne (by decide)⟩
  | string value => exact ⟨_, _, rfl, by decide, by decide⟩
  | @array items _ => cases items <;> exact ⟨_, _, rfl, by decide, by decide⟩
  | @object fields _ => cases fields <;> exact ⟨_, _, rfl, by decide, by decide⟩

/-- A value is read off the front of a text that starts with it, perhaps behind blanks. -/
def ReadsBack (layout : Layout) (value : Json) : Prop :=
  ∀ (level budget : Nat) (before rest : List Char), AllBlank before →
    (value.chars layout level).length ≤ budget → EndsNumber rest →
    value? budget (before ++ (value.chars layout level ++ rest)) = some (value, rest)

theorem stringChars_append (value : String) (rest : List Char) :
    stringChars value ++ rest = '"' :: (value.toList.flatMap escapedChar ++ '"' :: rest) := by
  simp [stringChars]

theorem length_stringChars (value : String) :
    value.toList.length + 2 ≤ (stringChars value).length := by
  have each (c : Char) : 1 ≤ (escapedChar c).length := by
    rcases escapedChar_cases c with ⟨same, -⟩ | ⟨code, written, -⟩
    · rw [same]
      exact Nat.le_refl 1
    · rw [written]
      exact Nat.le_add_left 1 _
  have letters : value.toList.length ≤ (value.toList.flatMap escapedChar).length := by
    induction value.toList with
    | nil => exact Nat.le_refl 0
    | cons c rest ih =>
      have first := each c
      rw [List.flatMap_cons, List.length_append, List.length_cons]
      omega
  simp only [stringChars, List.length_append, List.length_cons, List.length_nil]
  omega

section Kinds

variable {before : List Char} (blank : AllBlank before) (rest : List Char)

include blank

theorem value?_string (budget : Nat) (value : String)
    (enough : (stringChars value).length ≤ budget) :
    value? budget (before ++ (stringChars value ++ rest)) = some (.string value, rest) := by
  have letters := length_stringChars value
  cases budget with
  | zero => omega
  | succ budget =>
    have read := string?_flatMap value.toList rest budget (by omega)
    rw [value?, skipBlanks_append blank, stringChars_append, skipBlanks_cons (by decide)]
    simp only [read, Option.bind_eq_bind, Option.bind_some, Option.pure_def, String.ofList_toList]

theorem value?_number (budget : Nat) {c : Char} {more : List Char} (start : StartsNumber c)
    {value : Number} (read : number? (c :: more) = some (value, rest)) :
    value? (budget + 1) (before ++ c :: more) = some (.number value, rest) := by
  have other {letter : Char} {tail : List Char} (apart : ¬StartsNumber letter) :
      c :: more ≠ letter :: tail := fun same => start.ne apart (List.cons.inj same).1
  rw [value?, skipBlanks_append blank, skipBlanks_cons start.solid]
  split
  -- The other six kinds of value start with a character that no number starts with.
  iterate 6
    next tail same => exact absurd same (other (by decide))
  next => simp only [read, Option.bind_eq_bind, Option.bind_some, Option.pure_def]

end Kinds

/-! ### Arrays and objects -/

section Parts

variable (layout : Layout) (level : Nat) (rest : List Char)

theorem itemsChars_cons_append (item : Json) (more : List Json) :
    itemsChars layout level (item :: more) ++ rest =
      ',' :: (layout.lineBreak level ++ (chars layout level item ++
        (itemsChars layout level more ++ rest))) := by
  simp [itemsChars]

theorem fieldsChars_cons_append (name : String) (value : Json) (more : List (String × Json)) :
    fieldsChars layout level ((name, value) :: more) ++ rest =
      ',' :: (layout.lineBreak level ++ (stringChars name ++ ':' :: (layout.afterColon ++
        (chars layout level value ++ (fieldsChars layout level more ++ rest))))) := by
  simp [fieldsChars]

theorem arrayChars_append (item : Json) (more : List Json) :
    chars layout level (.array (item :: more)) ++ rest =
      '[' :: (layout.lineBreak (level + 1) ++ (chars layout (level + 1) item ++
        (itemsChars layout (level + 1) more ++ (layout.lineBreak level ++ ']' :: rest)))) := by
  simp [chars]

theorem objectChars_append (name : String) (value : Json) (more : List (String × Json)) :
    chars layout level (.object ((name, value) :: more)) ++ rest =
      '\x7b' :: (layout.lineBreak (level + 1) ++ (stringChars name ++ ':' :: (layout.afterColon ++
        (chars layout (level + 1) value ++ (fieldsChars layout (level + 1) more ++
          (layout.lineBreak level ++ '\x7d' :: rest)))))) := by
  simp [chars]

variable {layout}

/-- Items are read one after another up to the closing bracket. -/
theorem items?_chars (blank : layout.Blank) (item : Json) (more : List Json)
    (each : ∀ other ∈ item :: more, ReadsBack layout other) (budget : Nat)
    {before after : List Char} (blankBefore : AllBlank before) (blankAfter : AllBlank after)
    (enough : (chars layout level item).length + (itemsChars layout level more).length < budget) :
    items? budget (before ++ (chars layout level item ++ (itemsChars layout level more ++
      (after ++ ']' :: rest)))) = some (item :: more, rest) := by
  induction more generalizing item budget before with
  | nil =>
    obtain ⟨readsItem, -⟩ := List.forall_mem_cons.mp each
    have closing : EndsNumber (after ++ ']' :: rest) :=
      endsNumber_append blankAfter (endsNumber_cons _ rest (by decide))
    cases budget with
    | zero => cases enough
    | succ budget =>
      have read := readsItem level budget before _ blankBefore (by omega) closing
      rw [items?, itemsChars, List.nil_append, read]
      simp only [Option.bind_eq_bind, Option.bind_some, skipBlanks_append blankAfter,
        skipBlanks_cons (show isBlank ']' = false by decide), Option.pure_def]
  | cons next more ih =>
    obtain ⟨readsItem, readsMore⟩ := List.forall_mem_cons.mp each
    cases budget with
    | zero => cases enough
    | succ budget =>
      simp only [itemsChars, List.length_append, List.length_cons] at enough
      rw [itemsChars_cons_append]
      have read := readsItem level budget before _ blankBefore (by omega)
        (endsNumber_cons ',' (layout.lineBreak level ++ (chars layout level next ++
          (itemsChars layout level more ++ (after ++ ']' :: rest)))) (by decide))
      have later := ih next readsMore budget (blank.lineBreak level) (by omega)
      rw [items?, read]
      simp only [Option.bind_eq_bind, Option.bind_some,
        skipBlanks_cons (show isBlank ',' = false by decide), later, Option.pure_def]

theorem name?_chars (budget : Nat) (name : String) {before : List Char} (blank : AllBlank before)
    (enough : name.toList.length < budget) :
    name? budget (before ++ (stringChars name ++ ':' :: rest)) = some (name, rest) := by
  have read := string?_flatMap name.toList (':' :: rest) budget enough
  rw [name?, skipBlanks_append blank, stringChars_append, skipBlanks_cons (by decide)]
  simp only [read, Option.bind_eq_bind, Option.bind_some,
    skipBlanks_cons (show isBlank ':' = false by decide), Option.pure_def, String.ofList_toList]

/-- Fields are read one after another up to the closing brace. -/
theorem fields?_chars (blank : layout.Blank) (name : String) (value : Json)
    (more : List (String × Json)) (each : ∀ field ∈ (name, value) :: more, ReadsBack layout field.2)
    (budget : Nat) {before after : List Char} (blankBefore : AllBlank before)
    (blankAfter : AllBlank after)
    (enough : (stringChars name).length + (chars layout level value).length +
      (fieldsChars layout level more).length < budget) :
    fields? budget (before ++ (stringChars name ++ ':' :: (layout.afterColon ++
      (chars layout level value ++ (fieldsChars layout level more ++
        (after ++ '\x7d' :: rest)))))) = some ((name, value) :: more, rest) := by
  have letters := length_stringChars name
  induction more generalizing name value budget before with
  | nil =>
    have readsValue : ReadsBack layout value := each (name, value) List.mem_cons_self
    have closing : EndsNumber (after ++ '\x7d' :: rest) :=
      endsNumber_append blankAfter (endsNumber_cons _ rest (by decide))
    cases budget with
    | zero => cases enough
    | succ budget =>
      have read := readsValue level budget layout.afterColon _ blank.afterColon (by omega) closing
      rw [fields?, fieldsChars, List.nil_append, name?_chars _ budget name blankBefore (by omega)]
      simp only [Option.bind_eq_bind, Option.bind_some, read, skipBlanks_append blankAfter,
        skipBlanks_cons (show isBlank '\x7d' = false by decide), Option.pure_def]
  | cons next more ih =>
    obtain ⟨nextName, nextValue⟩ := next
    have readsValue : ReadsBack layout value := each (name, value) List.mem_cons_self
    have readsMore := (List.forall_mem_cons.mp each).2
    cases budget with
    | zero => cases enough
    | succ budget =>
      simp only [fieldsChars, List.length_append, List.length_cons] at enough
      rw [fieldsChars_cons_append, fields?, name?_chars _ budget name blankBefore (by omega)]
      have read := readsValue level budget layout.afterColon _ blank.afterColon (by omega)
        (endsNumber_cons ',' (layout.lineBreak level ++ (stringChars nextName ++ ':' ::
          (layout.afterColon ++ (chars layout level nextValue ++ (fieldsChars layout level more ++
            (after ++ '\x7d' :: rest)))))) (by decide))
      have later := ih nextName nextValue readsMore budget (blank.lineBreak level) (by omega)
        (length_stringChars nextName)
      simp only [Option.bind_eq_bind, Option.bind_some, read,
        skipBlanks_cons (show isBlank ',' = false by decide), later, Option.pure_def]

end Parts

theorem readsBack_array {layout : Layout} (blank : layout.Blank) {items : List Json}
    (integral : ∀ item ∈ items, Integral item) (each : ∀ item ∈ items, ReadsBack layout item) :
    ReadsBack layout (.array items) := by
  intro level budget before rest blankBefore enough _
  cases items with
  | nil =>
    cases budget with
    | zero => cases enough
    | succ budget =>
      rw [value?, skipBlanks_append blankBefore]
      rfl
  | cons item more =>
    have length := congrArg List.length (arrayChars_append layout level [] item more)
    simp only [List.append_nil, List.length_append, List.length_cons, List.length_nil] at length
    cases budget with
    | zero => omega
    | succ budget =>
      have read := items?_chars (level + 1) rest blank item more each budget
        (List.forall_mem_nil _) (blank.lineBreak level) (by omega)
      obtain ⟨c, tail, shape, solid, opened⟩ :=
        exists_chars_cons layout (level + 1) (integral item List.mem_cons_self)
      rw [List.nil_append, shape, List.cons_append] at read
      rw [value?, skipBlanks_append blankBefore, arrayChars_append, skipBlanks_cons (by decide),
        shape]
      simp only [skipBlanks_append (blank.lineBreak (level + 1)), List.cons_append,
        skipBlanks_cons solid]
      split
      next tail same => exact absurd (List.cons.inj same).1 opened
      next => simp only [read, Option.bind_eq_bind, Option.bind_some, Option.pure_def]

theorem readsBack_object {layout : Layout} (blank : layout.Blank) {fields : List (String × Json)}
    (each : ∀ field ∈ fields, ReadsBack layout field.2) : ReadsBack layout (.object fields) := by
  intro level budget before rest blankBefore enough _
  cases fields with
  | nil =>
    cases budget with
    | zero => cases enough
    | succ budget =>
      rw [value?, skipBlanks_append blankBefore]
      rfl
  | cons field more =>
    obtain ⟨name, value⟩ := field
    have length := congrArg List.length (objectChars_append layout level [] name value more)
    simp only [List.append_nil, List.length_append, List.length_cons, List.length_nil] at length
    cases budget with
    | zero => omega
    | succ budget =>
      have read := fields?_chars (level + 1) rest blank name value more each budget
        (List.forall_mem_nil _) (blank.lineBreak level) (by omega)
      rw [List.nil_append, stringChars_append] at read
      rw [value?, skipBlanks_append blankBefore, objectChars_append, skipBlanks_cons (by decide)]
      simp only [skipBlanks_append (blank.lineBreak (level + 1)), stringChars_append,
        skipBlanks_cons (show isBlank '"' = false by decide)]
      split
      next tail same => exact absurd (List.cons.inj same).1 (by decide)
      next => simp only [read, Option.bind_eq_bind, Option.bind_some, Option.pure_def]

theorem Integral.readsBack {layout : Layout} (blank : layout.Blank) {value : Json}
    (integral : Integral value) : ReadsBack layout value := by
  induction integral with
  | null =>
    intro level budget before rest blankBefore enough _
    cases budget with
    | zero => cases enough
    | succ budget =>
      rw [value?, skipBlanks_append blankBefore]
      rfl
  | bool value =>
    intro level budget before rest blankBefore enough _
    cases budget with
    | zero => cases value <;> cases enough
    | succ budget =>
      rw [value?, skipBlanks_append blankBefore]
      cases value <;> rfl
  | @integer value lower upper =>
    intro level budget before rest blankBefore enough ends
    obtain ⟨c, more, shape, start⟩ := exists_integerChars_cons value
    have read := number?_integerChars lower upper ends
    change (integerChars value).length ≤ budget at enough
    change value? budget (before ++ (integerChars value ++ rest)) = _
    rw [shape] at enough read ⊢
    cases budget with
    | zero => cases enough
    | succ budget => exact value?_number blankBefore rest budget start read
  | string value =>
    intro level budget before rest blankBefore enough _
    exact value?_string blankBefore rest budget value enough
  | array each ih => exact readsBack_array blank each ih
  | object each ih => exact readsBack_object blank ih

/-- A value without fractions is what its text is read as, whatever the layout. -/
theorem parse?_render {layout : Layout} (blank : layout.Blank) {value : Json}
    (integral : Integral value) : parse? (value.render layout) = some value := by
  have read := integral.readsBack blank 0 ((value.chars layout 0).length + 1) [] []
    (List.forall_mem_nil _) (Nat.le_succ _) (by intro c head; cases head)
  rw [List.nil_append, List.append_nil] at read
  rw [parse?, render, String.toList_ofList]
  simp only [read]
  rfl

end QueryLint.Json
