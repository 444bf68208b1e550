import Mathlib.Data.List.Basic
import Mathlib.Data.List.TakeWhile
import QueryLint.ParseError
import QueryLint.Proofs.Text.Numeral

/-!
The place that the error keeps of a parser's message.

A parser ends its message with the place where it stopped. Before that it may quote the text it was
given, and what it quotes can look like a place as well. Main statement: the place kept is the one
at the end, as long as the words before it hold none; otherwise it is the first place in those
words, or none at all if the numbers of that one cannot be read.
-/

namespace QueryLint

namespace Text

theorem not_inRanges_of_apart {ranges others : List (Nat × Nat)}
    (apart : ∀ range ∈ ranges, ∀ other ∈ others, range.2 < other.1 ∨ other.2 < range.1) {c : Char}
    (member : inRanges ranges c = true) : inRanges others c = false := by
  unfold inRanges at member ⊢
  obtain ⟨range, listed, inside⟩ := List.any_eq_true.mp member
  apply List.any_eq_false.mpr
  intro other listed' inside'
  simp only [Bool.and_eq_true, decide_eq_true_eq] at inside inside'
  have separate := apart range listed other listed'
  omega

/-- No blank is a digit, in any script. -/
theorem not_isDecimal_of_isBlank {c : Char} (blank : isBlank c = true) : isDecimal c = false :=
  not_inRanges_of_apart (by decide +kernel) blank

theorem not_isBlank_of_isDecimal {c : Char} (digit : isDecimal c = true) : isBlank c = false := by
  cases blank : isBlank c with
  | false => rfl
  | true =>
    have other := not_isDecimal_of_isBlank blank
    rw [digit] at other
    cases other

theorem after?_eq_some_iff (piece text rest : List Char) :
    after? piece text = some rest ↔ text = piece ++ rest := by
  unfold after?
  constructor
  · intro found
    split at found
    next starts =>
      obtain ⟨tail, shape⟩ := List.isPrefixOf_iff_prefix.mp starts
      cases found
      rw [← shape, List.drop_left]
    next => cases found
  · intro shape
    subst shape
    simp

end Text

namespace Position

open Text

/-- Whether a text does not go on with a character of some kind. -/
def StopsAt (kind : Char → Bool) (text : List Char) : Prop := ∀ c ∈ text.head?, kind c = false

theorem stopsAt_append {kind : Char → Bool} {text tail : List Char} (first : StopsAt kind text)
    (second : StopsAt kind tail) : StopsAt kind (text ++ tail) := by
  cases text with
  | nil => exact second
  | cons c rest => exact first

theorem dropWhile_eq_iff (kind : Char → Bool) (text rest : List Char) :
    text.dropWhile kind = rest ↔
      ∃ run, (∀ c ∈ run, kind c = true) ∧ text = run ++ rest ∧ StopsAt kind rest := by
  constructor
  · intro dropped
    subst dropped
    refine ⟨text.takeWhile kind, fun c member => List.mem_takeWhile_imp member,
      List.takeWhile_append_dropWhile.symm, ?_⟩
    intro c head
    have stopped := List.head?_dropWhile_not kind text
    rw [Option.mem_def.mp head] at stopped
    exact stopped
  · intro split
    obtain ⟨run, all, rfl, stops⟩ := split
    rw [List.dropWhile_append_of_pos all]
    cases rest with
    | nil => rfl
    | cons c tail => exact List.dropWhile_cons_of_neg (by simp [stops c rfl])

theorem digitRun?_eq_some_iff (text digits rest : List Char) :
    digitRun? text = some (digits, rest) ↔
      (digits ≠ [] ∧ ∀ c ∈ digits, isDecimal c = true) ∧ text = digits ++ rest ∧
        StopsAt isDecimal rest := by
  unfold digitRun?
  simp only
  constructor
  · intro found
    split at found
    next => cases found
    next some =>
      cases found
      obtain ⟨run, -, -, stops⟩ := (dropWhile_eq_iff isDecimal text _).mp rfl
      exact ⟨⟨by simpa using some, fun c member => List.mem_takeWhile_imp member⟩,
        List.takeWhile_append_dropWhile.symm, stops⟩
  · intro split
    obtain ⟨⟨some, all⟩, rfl, stops⟩ := split
    have dropped : (digits ++ rest).dropWhile isDecimal = rest :=
      (dropWhile_eq_iff isDecimal _ _).mpr ⟨digits, all, rfl, stops⟩
    have taken : (digits ++ rest).takeWhile isDecimal = digits := by
      have whole := List.takeWhile_append_dropWhile (p := isDecimal) (l := digits ++ rest)
      rw [dropped] at whole
      exact List.append_cancel_right whole
    rw [taken, dropped]
    simp [some]

/-- Blanks, perhaps none. -/
abbrev Blanks := {run : List Char // ∀ c ∈ run, isBlank c = true}

/-- Decimal digits of any script, at least one. -/
abbrev Digits := {run : List Char // run ≠ [] ∧ ∀ c ∈ run, isDecimal c = true}

/-- A line and a column as a text may name them, with blanks wherever they can stand. -/
structure Place where
  line : Digits
  column : Digits
  beforeLine : Blanks
  beforeComma : Blanks
  afterComma : Blanks
  beforeColumn : Blanks

namespace Place

def digits (place : Place) : List Char × List Char := (place.line.val, place.column.val)

def text (place : Place) : List Char :=
  "Line:".toList ++ (place.beforeLine.val ++ (place.line.val ++ (place.beforeComma.val ++
    ([','] ++ (place.afterComma.val ++ ("Column:".toList ++ (place.beforeColumn.val ++
      place.column.val)))))))

/-- A text begins with a place, whose column is taken as far as its digits go. -/
def Starts (place : Place) (text : List Char) : Prop :=
  ∃ rest, text = place.text ++ rest ∧ StopsAt isDecimal rest

end Place

theorem stopsAt_blank_digits (digits : Digits) (rest : List Char) :
    StopsAt isBlank (digits.val ++ rest) := by
  obtain ⟨run, some, all⟩ := digits
  intro c head
  cases run with
  | nil => exact absurd rfl some
  | cons first tail =>
    cases head
    exact not_isBlank_of_isDecimal (all _ List.mem_cons_self)

theorem stopsAt_decimal_blanks (blanks : Blanks) (rest : List Char)
    (stops : StopsAt isDecimal rest) : StopsAt isDecimal (blanks.val ++ rest) := by
  apply stopsAt_append _ stops
  intro c head
  exact not_isDecimal_of_isBlank (blanks.property c (List.mem_of_mem_head? head))

theorem dropWhile_blanks (blanks : Blanks) (rest : List Char) (stops : StopsAt isBlank rest) :
    (blanks.val ++ rest).dropWhile isBlank = rest :=
  (dropWhile_eq_iff isBlank _ _).mpr ⟨blanks.val, blanks.property, rfl, stops⟩

theorem digitRun?_digits (digits : Digits) (rest : List Char) (stops : StopsAt isDecimal rest) :
    digitRun? (digits.val ++ rest) = some (digits.val, rest) :=
  (digitRun?_eq_some_iff _ _ _).mpr ⟨digits.property, rfl, stops⟩

theorem namedAt?_of_starts {place : Place} {text : List Char} (starts : place.Starts text) :
    namedAt? text = some place.digits := by
  obtain ⟨rest, rfl, stops⟩ := starts
  have comma : StopsAt isDecimal ([','] ++ (place.afterComma.val ++ ("Column:".toList ++
      (place.beforeColumn.val ++ (place.column.val ++ rest))))) := by
    intro c head
    cases head
    decide +kernel
  simp only [Place.text, List.append_assoc]
  unfold namedAt?
  rw [(after?_eq_some_iff _ _ _).mpr rfl]
  simp only [Option.bind_eq_bind, Option.bind_some]
  rw [dropWhile_blanks _ _ (stopsAt_blank_digits _ _),
    digitRun?_digits _ _ (stopsAt_decimal_blanks _ _ comma)]
  simp only [Option.bind_some]
  rw [dropWhile_blanks _ _ (by intro c head; cases head; decide +kernel),
    (after?_eq_some_iff _ _ _).mpr rfl]
  simp only [Option.bind_some]
  rw [dropWhile_blanks _ _ (by intro c head; cases head; decide +kernel),
    (after?_eq_some_iff _ _ _).mpr rfl]
  simp only [Option.bind_some]
  rw [dropWhile_blanks _ _ (stopsAt_blank_digits _ _), digitRun?_digits _ _ stops]
  rfl

theorem exists_place_of_namedAt? {text : List Char} {digits : List Char × List Char}
    (named : namedAt? text = some digits) : ∃ place : Place, place.Starts text ∧
      place.digits = digits := by
  unfold namedAt? at named
  simp only [Option.bind_eq_bind, Option.bind_eq_some_iff, Prod.exists, Option.pure_def,
    Option.some.injEq] at named
  obtain ⟨afterLine, found, line, afterDigits, run, afterComma, comma, afterColumn, found', column,
    rest, run', rfl⟩ := named
  rw [after?_eq_some_iff] at found comma found'
  rw [digitRun?_eq_some_iff] at run run'
  obtain ⟨lineDigits, shape, -⟩ := run
  obtain ⟨columnDigits, shape', stops⟩ := run'
  obtain ⟨beforeLine, blank₁, drop₁, -⟩ := (dropWhile_eq_iff _ _ _).mp shape
  obtain ⟨beforeComma, blank₂, drop₂, -⟩ := (dropWhile_eq_iff _ _ _).mp comma
  obtain ⟨afterComma', blank₃, drop₃, -⟩ := (dropWhile_eq_iff _ _ _).mp found'
  obtain ⟨beforeColumn, blank₄, drop₄, -⟩ := (dropWhile_eq_iff _ _ _).mp shape'
  refine ⟨⟨⟨line, lineDigits⟩, ⟨column, columnDigits⟩, ⟨beforeLine, blank₁⟩, ⟨beforeComma, blank₂⟩,
    ⟨afterComma', blank₃⟩, ⟨beforeColumn, blank₄⟩⟩, ⟨rest, ?_, stops⟩, rfl⟩
  rw [found, drop₁, drop₂, drop₃, drop₄]
  simp [Place.text]

theorem namedAt?_eq_some_iff (text : List Char) (digits : List Char × List Char) :
    namedAt? text = some digits ↔ ∃ place : Place, place.Starts text ∧ place.digits = digits := by
  constructor
  · exact exists_place_of_namedAt?
  · intro held
    obtain ⟨place, starts, rfl⟩ := held
    exact namedAt?_of_starts starts

/-- The first place that is met on going through a text. -/
inductive Place.IsFirst (place : Place) : List Char → Prop
  | here {text : List Char} (starts : place.Starts text) : place.IsFirst text
  | later {c : Char} {rest : List Char} (none : ∀ other : Place, ¬other.Starts (c :: rest))
      (first : place.IsFirst rest) : place.IsFirst (c :: rest)

/-- A text holds a place anywhere. -/
def Holds (text : List Char) : Prop := ∃ place : Place, place.text <:+: text

theorem Place.text_ne_nil (place : Place) : place.text ≠ [] := List.cons_ne_nil _ _

theorem Place.not_starts_nil (place : Place) : ¬place.Starts [] := by
  intro starts
  obtain ⟨rest, shape, -⟩ := starts
  exact place.text_ne_nil (List.append_eq_nil_iff.mp shape.symm).1

theorem firstNamed?_eq_some_iff (text : List Char) (digits : List Char × List Char) :
    firstNamed? text = some digits ↔
      ∃ place : Place, place.IsFirst text ∧ place.digits = digits := by
  induction text with
  | nil =>
    constructor
    · intro found
      cases found
    · intro held
      obtain ⟨place, first, -⟩ := held
      cases first with
      | here starts => exact absurd starts place.not_starts_nil
  | cons c rest ih =>
    rw [firstNamed?]
    cases named : namedAt? (c :: rest) with
    | some found =>
      obtain ⟨place, starts, rfl⟩ := exists_place_of_namedAt? named
      constructor
      · intro same
        exact ⟨place, .here starts, Option.some.inj same⟩
      · intro held
        obtain ⟨other, first, rfl⟩ := held
        cases first with
        | here starts' => exact named.symm.trans (namedAt?_of_starts starts')
        | later none _ => exact absurd starts (none place)
    | none =>
      have absent : ∀ other : Place, ¬other.Starts (c :: rest) := by
        intro other starts
        rw [namedAt?_of_starts starts] at named
        cases named
      simp only
      rw [ih]
      constructor
      · intro held
        obtain ⟨place, first, same⟩ := held
        exact ⟨place, .later absent first, same⟩
      · intro held
        obtain ⟨place, first, same⟩ := held
        cases first with
        | here starts => exact absurd starts (absent place)
        | later _ first => exact ⟨place, first, same⟩

/-- Where a place is followed by more digits, these belong to its column. -/
theorem Place.exists_starts (place : Place) (rest : List Char) :
    ∃ larger : Place, larger.Starts (place.text ++ rest) := by
  obtain ⟨run, digits, shape, stops⟩ := (dropWhile_eq_iff isDecimal rest _).mp rfl
  have column : place.column.val ++ run ≠ [] ∧
      ∀ c ∈ place.column.val ++ run, isDecimal c = true := by
    constructor
    · intro empty
      exact place.column.property.1 (List.append_eq_nil_iff.mp empty).1
    · intro c member
      rcases List.mem_append.mp member with first | more
      · exact place.column.property.2 c first
      · exact digits c more
  refine ⟨{ place with column := ⟨_, column⟩ }, rest.dropWhile isDecimal, ?_, stops⟩
  conv_lhs => rw [shape]
  simp [Place.text]

theorem holds_iff_exists_isFirst (text : List Char) :
    Holds text ↔ ∃ place : Place, place.IsFirst text := by
  constructor
  · intro holds
    obtain ⟨place, held⟩ := holds
    induction text with
    | nil => exact absurd (List.infix_nil.mp held) place.text_ne_nil
    | cons c rest ih =>
      by_cases starting : ∃ other : Place, other.Starts (c :: rest)
      · obtain ⟨other, starts⟩ := starting
        exact ⟨other, .here starts⟩
      · rcases List.infix_cons_iff.mp held with ⟨tail, shape⟩ | inside
        · exact absurd (shape ▸ place.exists_starts tail) starting
        · obtain ⟨first, isFirst⟩ := ih inside
          exact ⟨first, .later (not_exists.mp starting) isFirst⟩
  · intro found
    obtain ⟨place, first⟩ := found
    induction first with
    | here starts =>
      obtain ⟨rest, rfl, -⟩ := starts
      exact ⟨place, (List.prefix_append _ _).isInfix⟩
    | later none first ih =>
      obtain ⟨other, held⟩ := ih
      exact ⟨other, List.infix_cons held⟩

theorem firstNamed?_eq_none_iff (text : List Char) : firstNamed? text = none ↔ ¬Holds text := by
  rw [holds_iff_exists_isFirst, Option.eq_none_iff_forall_ne_some, not_exists]
  constructor
  · intro none place first
    exact none place.digits ((firstNamed?_eq_some_iff _ _).mpr ⟨place, first, rfl⟩)
  · intro none digits found
    obtain ⟨place, first, -⟩ := (firstNamed?_eq_some_iff _ _).mp found
    exact none place first

theorem Place.not_mem_text (place : Place) : 'a' ∉ place.text := by
  have notBlank (run : Blanks) : 'a' ∉ run.val := fun member =>
    absurd (run.property 'a' member) (by decide +kernel)
  have notDigit (run : Digits) : 'a' ∉ run.val := fun member =>
    absurd (run.property.2 'a' member) (by decide +kernel)
  simp [Place.text, notBlank, notDigit]

/-- A place ends in a digit. -/
theorem Place.text_ne_concat_space (place : Place) (words : List Char) :
    place.text ≠ words ++ [' '] := by
  intro same
  obtain ⟨front, split⟩ : ∃ front, place.text = front ++ place.column.val :=
    ⟨_, by simp only [Place.text, ← List.append_assoc]; rfl⟩
  have last := congrArg List.getLast? (split.symm.trans same)
  rw [List.getLast?_append_of_ne_nil _ place.column.property.1, List.getLast?_concat] at last
  have digit := place.column.property.2 ' ' (List.mem_of_getLast? last)
  exact absurd digit (by decide +kernel)

/-- A place that starts in the words before ` a` ends there too. -/
theorem namedAt?_append (words tail : List Char) :
    namedAt? (words ++ ' ' :: 'a' :: tail) = namedAt? words := by
  apply Option.ext
  intro digits
  rw [namedAt?_eq_some_iff, namedAt?_eq_some_iff]
  apply exists_congr
  intro place
  apply and_congr_left
  intro _
  constructor
  · intro starts
    obtain ⟨rest, shape, stops⟩ := starts
    rcases List.append_eq_append_iff.mp shape with ⟨excess, text, parts⟩ | ⟨left, words', rest'⟩
    · match excess, parts with
      | [], _ => exact ⟨[], by simpa using text.symm, by intro c head; cases head⟩
      | [c], parts =>
        cases (List.cons.inj parts).1
        exact absurd text (place.text_ne_concat_space words)
      | c :: d :: excess, parts =>
        cases (List.cons.inj (List.cons.inj parts).2).1
        exact absurd (text ▸ by simp) place.not_mem_text
    · refine ⟨left, words', ?_⟩
      intro c head
      apply stops
      rw [rest']
      cases left with
      | nil => cases head
      | cons d left => exact head
  · intro starts
    obtain ⟨rest, rfl, stops⟩ := starts
    refine ⟨rest ++ ' ' :: 'a' :: tail, List.append_assoc _ _ _, stopsAt_append stops ?_⟩
    intro c head
    cases head
    decide +kernel

theorem firstNamed?_append (words tail : List Char) :
    firstNamed? (words ++ ' ' :: 'a' :: tail) =
      (firstNamed? words).or (firstNamed? (' ' :: 'a' :: tail)) := by
  induction words with
  | nil => rfl
  | cons c rest ih =>
    rw [List.cons_append, firstNamed?, ← List.cons_append, namedAt?_append, firstNamed?, ih]
    cases namedAt? (c :: rest) <;> rfl

theorem Place.not_starts_cons (place : Place) {c : Char} (other : c ≠ 'L') (rest : List Char) :
    ¬place.Starts (c :: rest) := by
  intro starts
  obtain ⟨tail, shape, -⟩ := starts
  exact other (List.cons.inj shape).1

/-- A place is found behind words without a capital `L`. -/
theorem firstNamed?_skip (words text : List Char) (plain : 'L' ∉ words) :
    firstNamed? (words ++ text) = firstNamed? text := by
  induction words with
  | nil => rfl
  | cons c rest ih =>
    simp only [List.mem_cons, not_or] at plain
    have absent : namedAt? (c :: (rest ++ text)) = none := by
      rw [Option.eq_none_iff_forall_ne_some]
      intro digits named
      obtain ⟨place, starts, -⟩ := exists_place_of_namedAt? named
      exact place.not_starts_cons (Ne.symm plain.1) _ starts
    rw [List.cons_append, firstNamed?, absent]
    exact ih plain.2

def Blanks.none : Blanks := ⟨[], List.forall_mem_nil _⟩

def Blanks.space : Blanks :=
  have blank : Text.isBlank ' ' = true := by decide +kernel
  ⟨[' '], List.forall_mem_singleton.mpr blank⟩

/-- The place that a line and a column are written as at the end of a message. -/
def Place.ofNumbers (line column : Nat) : Place where
  line := ⟨Nat.toDigits 10 line, Nat.toDigits_ne_nil, fun _ member =>
    isDecimal_of_isDigit (Nat.isDigit_of_mem_toDigits (by decide) (by decide) member)⟩
  column := ⟨Nat.toDigits 10 column, Nat.toDigits_ne_nil, fun _ member =>
    isDecimal_of_isDigit (Nat.isDigit_of_mem_toDigits (by decide) (by decide) member)⟩
  beforeLine := .space
  beforeComma := .none
  afterComma := .space
  beforeColumn := .space

/-- The numbers of a place, if they are written in ASCII digits and fit in 64 bits. -/
def Place.position? (place : Place) : Option Position := do
  return ⟨← word? place.line.val, ← word? place.column.val⟩

theorem word?_toDigits (count : Nat) (fits : count < wordBound) :
    word? (Nat.toDigits 10 count) = some count := by
  rw [word?, number?_toDigits, Option.filter_some, if_pos (decide_eq_true fits)]

theorem Place.position?_ofNumbers (line column : Nat) (lineFits : line < wordBound)
    (columnFits : column < wordBound) :
    (Place.ofNumbers line column).position? = some ⟨line, column⟩ := by
  simp [Place.position?, Place.ofNumbers, word?_toDigits, lineFits, columnFits]

theorem ofMessage?_of_firstNamed? {message : String} {place : Place}
    (found : firstNamed? message.toList = some place.digits) :
    ofMessage? message = place.position? := by
  unfold ofMessage?
  rw [found]
  rfl

end Position

namespace ParseError

open Position

/-- The text of a failure: some words, and then the place where the parser stopped. -/
def located (words : String) (line column : Nat) : String :=
  s!"{words} at Line: {line}, Column: {column}"

theorem toList_located (words : String) (line column : Nat) :
    (located words line column).toList =
      words.toList ++ (" at ".toList ++ (Place.ofNumbers line column).text) := by
  have spelt : located words line column =
      words ++ " at Line: " ++ Nat.repr line ++ ", Column: " ++ Nat.repr column := rfl
  rw [spelt]
  simp [Place.text, Place.ofNumbers, Blanks.none, Blanks.space]

/-- The place at the end of a message comes last. -/
theorem firstNamed?_message (failure : ParserFailure) (words : String) (line column : Nat)
    (ends : failure = .tokens (located words line column) ∨
      failure = .grammar (located words line column)) :
    firstNamed? failure.message.toList =
      (firstNamed? words.toList).or (some (Place.ofNumbers line column).digits) := by
  have spelt : failure.message = "sql parser error: " ++ located words line column := by
    rcases ends with rfl | rfl <;> rfl
  have last : firstNamed? (" at ".toList ++ (Place.ofNumbers line column).text) =
      some (Place.ofNumbers line column).digits := by
    rw [firstNamed?_skip _ _ (by decide), firstNamed?_eq_some_iff]
    have starts : (Place.ofNumbers line column).Starts (Place.ofNumbers line column).text :=
      ⟨[], (List.append_nil _).symm, by intro c head; cases head⟩
    exact ⟨_, .here starts, rfl⟩
  rw [spelt, String.toList_append, toList_located, firstNamed?_skip _ _ (by decide), ← last]
  exact firstNamed?_append words.toList _

/-- The place kept of a failure is the one at the end of its text if the words before hold none, and
else the first in those words, whether or not its numbers can be read. -/
theorem position_of_located (failure : ParserFailure) (words : String) (line column : Nat)
    (ends : failure = .tokens (located words line column) ∨
      failure = .grammar (located words line column))
    (lineFits : line < wordBound) (columnFits : column < wordBound) :
    (¬Holds words.toList → (ofFailure failure).position = some ⟨line, column⟩) ∧
      (Holds words.toList → ∃ place : Place, place.IsFirst words.toList ∧
        (ofFailure failure).position = place.position?) := by
  have first := firstNamed?_message failure words line column ends
  constructor
  · intro plain
    rw [(firstNamed?_eq_none_iff _).mpr plain, Option.none_or] at first
    calc (ofFailure failure).position
        = (Place.ofNumbers line column).position? := ofMessage?_of_firstNamed? first
      _ = some ⟨line, column⟩ := Place.position?_ofNumbers line column lineFits columnFits
  · intro holds
    obtain ⟨place, isFirst⟩ := (holds_iff_exists_isFirst _).mp holds
    rw [(firstNamed?_eq_some_iff _ _).mpr ⟨place, isFirst, rfl⟩, Option.some_or] at first
    exact ⟨place, isFirst, ofMessage?_of_firstNamed? first⟩

/-- The words speak of a line, but name no column. -/
theorem position_of_located_unquoted :
    let words := "Unterminated string literal 'Line: 7, Column:'"
    ¬Holds words.toList ∧
      (ofFailure (.tokens (located words 3 18446744073709551615))).position =
        some ⟨3, 18446744073709551615⟩ := by
  intro words
  have plain : ¬Holds words.toList := (firstNamed?_eq_none_iff _).mp (by decide +kernel)
  exact ⟨plain, (position_of_located _ words 3 18446744073709551615 (.inl rfl) (by decide)
    (by decide)).1 plain⟩

/-- A place that is quoted before the end is kept in the stead of the one at the end, and if its
numbers are too great there is no place at all. -/
theorem position_of_quoted_place :
    (ofFailure (.grammar (located
      "Expected: end of statement, found: 'Line: 7, Column: 9'" 1 10))).position = some ⟨7, 9⟩ ∧
    (ofFailure (.grammar (located
      "Expected: end of statement, found: 'Line: 18446744073709551616, Column: 9'" 1 10))).position =
        none := by
  decide +kernel

end ParseError

end QueryLint
