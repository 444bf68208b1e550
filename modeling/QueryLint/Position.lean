import QueryLint.Text.Blank
import QueryLint.Text.Digit
import QueryLint.Text.Search
import QueryLint.Word

/-!
The place that a parser's message names. Only the first place in the message counts: if its
numbers cannot be read, no later one is tried.
-/

namespace QueryLint

/-- A line and a column, both counted from one. -/
structure Position where
  line : Nat
  column : Nat
deriving DecidableEq, Repr

namespace Position

def digitRun? (text : List Char) : Option (List Char × List Char) :=
  let digits := text.takeWhile Text.isDecimal
  if digits.isEmpty then none else some (digits, text.dropWhile Text.isDecimal)

/-- The digits of a line and a column named at the very start of a text. -/
def namedAt? (text : List Char) : Option (List Char × List Char) := do
  let rest ← Text.after? "Line:".toList text
  let (line, rest) ← digitRun? (rest.dropWhile Text.isBlank)
  let rest ← Text.after? [','] (rest.dropWhile Text.isBlank)
  let rest ← Text.after? "Column:".toList (rest.dropWhile Text.isBlank)
  let (column, _) ← digitRun? (rest.dropWhile Text.isBlank)
  return (line, column)

/-- The digits of the first place named in a text. -/
def firstNamed? : List Char → Option (List Char × List Char)
  | [] => none
  | c :: rest =>
    match namedAt? (c :: rest) with
    | some place => some place
    | none => firstNamed? rest

/-- A number in ASCII digits that 64 bits hold. -/
def word? (digits : List Char) : Option Nat :=
  (Text.number? digits).filter (· < wordBound)

def ofMessage? (message : String) : Option Position := do
  let (line, column) ← firstNamed? message.toList
  return ⟨← word? line, ← word? column⟩

end Position

end QueryLint
