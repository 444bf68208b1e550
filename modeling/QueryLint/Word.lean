/-!
Natural numbers that are held in 64 bits.
-/

namespace QueryLint

/-- One more than the greatest number that 64 bits hold. -/
def wordBound : Nat := 0x10000000000000000

/-- The number after another in 64 bits: zero comes after the greatest one. -/
def nextWord (word : Nat) : Nat := (word + 1) % wordBound

theorem nextWord_of_lt {word : Nat} (small : word + 1 < wordBound) : nextWord word = word + 1 :=
  Nat.mod_eq_of_lt small

end QueryLint
