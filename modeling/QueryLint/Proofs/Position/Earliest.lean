import Mathlib.Algebra.Group.Nat.Defs
import QueryLint.Proofs.Position.Place

/-!
The place that is read off a message, told by where it begins.

Main statement: a line and a column come out just if the earliest place of the message has its
numbers in ASCII digits and below `2 ^ 64`. Nothing comes out if the message holds no place, and
also if the earliest one cannot be read, whatever comes after it.
-/

namespace QueryLint.Position

open Text

/-- A run of digits is ASCII throughout and spells a number that 64 bits hold. -/
structure Spells (digits : List Char) (value : Nat) : Prop where
  ascii : ∀ c ∈ digits, c.isDigit = true
  value_eq : Nat.ofDigitChars 10 digits 0 = value
  fits : value < 2 ^ 64

theorem word?_eq_some_iff (digits : List Char) (value : Nat) :
    word? digits = some value ↔ Spells digits value := by
  have bound : wordBound = 2 ^ 64 := by decide
  rw [word?, Option.filter_eq_some_iff, number?_eq_some_iff, decide_eq_true_eq, bound]
  constructor
  · intro held
    obtain ⟨⟨ascii, value_eq⟩, fits⟩ := held
    exact ⟨ascii, value_eq, fits⟩
  · intro spells
    exact ⟨⟨spells.ascii, spells.value_eq⟩, spells.fits⟩

namespace Place

/-- Both numbers of a place can be read. -/
def Reads (place : Place) (position : Position) : Prop :=
  Spells place.line.val position.line ∧ Spells place.column.val position.column

theorem position?_eq_some_iff (place : Place) (position : Position) :
    place.position? = some position ↔ place.Reads position := by
  obtain ⟨line, column⟩ := position
  simp only [position?, Option.bind_eq_bind, Option.bind_eq_some_iff, Option.pure_def,
    Option.some.injEq, Position.mk.injEq, word?_eq_some_iff, Reads]
  constructor
  · intro held
    obtain ⟨_, spelt, _, speltColumn, rfl, rfl⟩ := held
    exact ⟨spelt, speltColumn⟩
  · intro reads
    exact ⟨line, reads.1, column, reads.2, rfl, rfl⟩

/-- A place begins at an index of a text, its column taken as far as the digits go, and no place at
all begins before that. -/
structure Earliest (place : Place) (index : Nat) (text : List Char) : Prop where
  begins : place.Starts (text.drop index)
  unpreceded : ∀ earlier < index, ∀ other : Place, ¬other.text <+: text.drop earlier

theorem Starts.isPrefix {place : Place} {text : List Char} (starts : place.Starts text) :
    place.text <+: text := by
  obtain ⟨rest, rfl, -⟩ := starts
  exact List.prefix_append _ _

/-- A text that begins with the characters of a place starts with one. -/
theorem exists_starts_of_isPrefix {place : Place} {text : List Char}
    (begins : place.text <+: text) : ∃ larger : Place, larger.Starts text := by
  obtain ⟨rest, rfl⟩ := begins
  exact place.exists_starts rest

theorem Earliest.of_isFirst {place : Place} {text : List Char} (first : place.IsFirst text) :
    ∃ index, place.Earliest index text := by
  induction first with
  | here starts => exact ⟨0, starts, fun earlier before => absurd before (Nat.not_lt_zero earlier)⟩
  | later none first ih =>
    obtain ⟨index, begins, unpreceded⟩ := ih
    refine ⟨index + 1, begins, ?_⟩
    intro earlier before other starting
    cases earlier with
    | zero =>
      obtain ⟨larger, starts⟩ := exists_starts_of_isPrefix starting
      exact none larger starts
    | succ earlier => exact unpreceded earlier (Nat.lt_of_succ_lt_succ before) other starting

theorem Earliest.isFirst {place : Place} {index : Nat} {text : List Char}
    (earliest : place.Earliest index text) : place.IsFirst text := by
  obtain ⟨begins, unpreceded⟩ := earliest
  induction index generalizing text with
  | zero => exact .here begins
  | succ index ih =>
    cases text with
    | nil => exact absurd begins place.not_starts_nil
    | cons c rest =>
      have none : ∀ other : Place, ¬other.Starts (c :: rest) := fun other starts =>
        unpreceded 0 (Nat.zero_lt_succ index) other starts.isPrefix
      refine .later none (ih begins ?_)
      intro earlier before other
      exact unpreceded (earlier + 1) (Nat.succ_lt_succ before) other

theorem isFirst_iff_earliest (place : Place) (text : List Char) :
    place.IsFirst text ↔ ∃ index, place.Earliest index text :=
  ⟨Earliest.of_isFirst, fun ⟨_, earliest⟩ => earliest.isFirst⟩

/-- Where the earliest place begins and which digits it has are settled by the text. -/
theorem Earliest.unique {place other : Place} {index second : Nat} {text : List Char}
    (earliest : place.Earliest index text) (also : other.Earliest second text) :
    index = second ∧ place.digits = other.digits := by
  have same : index = second := by
    rcases Nat.lt_trichotomy index second with before | equal | after
    · exact absurd earliest.begins.isPrefix (also.unpreceded index before place)
    · exact equal
    · exact absurd also.begins.isPrefix (earliest.unpreceded second after other)
  subst same
  have named := namedAt?_of_starts earliest.begins
  rw [namedAt?_of_starts also.begins] at named
  exact ⟨rfl, (Option.some.inj named).symm⟩

end Place

/-- What a message gives is what its earliest place gives. -/
theorem ofMessage?_of_earliest {message : String} {place : Place} {index : Nat}
    (earliest : place.Earliest index message.toList) : ofMessage? message = place.position? :=
  ofMessage?_of_firstNamed? ((firstNamed?_eq_some_iff _ _).mpr ⟨place, earliest.isFirst, rfl⟩)

theorem ofMessage?_of_not_holds {message : String} (plain : ¬Holds message.toList) :
    ofMessage? message = none := by
  rw [ofMessage?, (firstNamed?_eq_none_iff _).mpr plain]
  rfl

theorem holds_iff_exists_earliest (text : List Char) :
    Holds text ↔ ∃ (index : Nat) (place : Place), place.Earliest index text := by
  simp only [holds_iff_exists_isFirst, Place.isFirst_iff_earliest]
  exact exists_comm

/-- A position comes out just if the earliest place reads as that position, and none comes out just
if there is no place or the earliest one cannot be read. There is one earliest place at most. -/
theorem ofMessage?_iff_earliest (message : String) :
    (∀ position, ofMessage? message = some position ↔
      ∃ (index : Nat) (place : Place), place.Earliest index message.toList ∧
        place.Reads position) ∧
    (ofMessage? message = none ↔
      ¬Holds message.toList ∨ ∃ (index : Nat) (place : Place),
        place.Earliest index message.toList ∧ ∀ position, ¬place.Reads position) ∧
    ∀ (index second : Nat) (place other : Place), place.Earliest index message.toList →
      other.Earliest second message.toList → index = second ∧ place.digits = other.digits := by
  refine ⟨?_, ?_, fun _ _ _ _ earliest also => earliest.unique also⟩
  · intro position
    constructor
    · intro found
      by_cases holds : Holds message.toList
      · obtain ⟨index, place, earliest⟩ := (holds_iff_exists_earliest _).mp holds
        rw [ofMessage?_of_earliest earliest, place.position?_eq_some_iff] at found
        exact ⟨index, place, earliest, found⟩
      · rw [ofMessage?_of_not_holds holds] at found
        cases found
    · intro held
      obtain ⟨index, place, earliest, reads⟩ := held
      rw [ofMessage?_of_earliest earliest]
      exact (place.position?_eq_some_iff position).mpr reads
  · constructor
    · intro absent
      by_cases holds : Holds message.toList
      · obtain ⟨index, place, earliest⟩ := (holds_iff_exists_earliest _).mp holds
        refine .inr ⟨index, place, earliest, ?_⟩
        intro position reads
        rw [ofMessage?_of_earliest earliest, (place.position?_eq_some_iff position).mpr reads]
          at absent
        cases absent
      · exact .inl holds
    · intro held
      rcases held with plain | ⟨index, place, earliest, unread⟩
      · exact ofMessage?_of_not_holds plain
      · rw [ofMessage?_of_earliest earliest, Option.eq_none_iff_forall_ne_some]
        intro position found
        exact unread position ((place.position?_eq_some_iff position).mp found)

/-- The first `Line:` names no place. The second does, with a column in the digits of two scripts,
and so the place that follows, which could be read, is not tried. -/
theorem ofMessage?_iff_earliest_mixed_digits :
    let message := "Line: Line: 007 ,Column:2٣ at Line: 3, Column: 4"
    ∃ place : Place, place.Earliest 6 message.toList ∧ (∀ position, ¬place.Reads position) ∧
      ofMessage? message = none ∧
      ∀ (index : Nat) (other : Place), other.Earliest index message.toList →
        index = 6 ∧ other.digits = place.digits := by
  intro message
  have named : namedAt? (message.toList.drop 6) = some (['0', '0', '7'], ['2', '٣']) := by
    decide +kernel
  have before : ∀ earlier < 6, namedAt? (message.toList.drop earlier) = none := by decide +kernel
  obtain ⟨place, begins, digits⟩ := exists_place_of_namedAt? named
  have earliest : place.Earliest 6 message.toList := by
    refine ⟨begins, ?_⟩
    intro earlier below other starting
    obtain ⟨larger, starts⟩ := Place.exists_starts_of_isPrefix starting
    cases (before earlier below).symm.trans (namedAt?_of_starts starts)
  have unread : ∀ position, ¬place.Reads position := by
    intro position reads
    have column : place.column.val = ['2', '٣'] := congrArg Prod.snd digits
    have ascii := reads.2.ascii '٣' (by simp [column])
    exact absurd ascii (by decide)
  obtain ⟨-, absent, unique⟩ := ofMessage?_iff_earliest message
  exact ⟨place, earliest, unread, absent.mpr (.inr ⟨6, place, earliest, unread⟩),
    fun index other also => unique index 6 other place also earliest⟩

end QueryLint.Position
