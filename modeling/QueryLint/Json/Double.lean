/-!
Numbers with a fraction or an exponent, held as the double they are read as: 53 bits of mantissa
and a power of two no smaller than -1074. All arithmetic is on natural numbers.

Reading rounds twice, once for the digits and once for the power of ten. Writing takes the fewest
digits that single the double out, and of those the nearest to it.
-/

namespace QueryLint.Json

/-- A finite double of magnitude `mantissa * 2 ^ exponent`. -/
structure Double where
  negative : Bool
  mantissa : Nat
  exponent : Int
deriving DecidableEq, Repr

namespace Double

/-- The whole number nearest to a quotient, the even one if two are as near. -/
def roundDiv (num den : Nat) : Nat :=
  if 2 * (num % den) < den then num / den
  else if den < 2 * (num % den) then num / den + 1
  else num / den + num / den % 2

def factor (two ten : Int) : Nat := Nat.pow 2 two.toNat * Nat.pow 10 ten.toNat

/-- A fraction times `2 ^ two * 10 ^ ten`, where a negative power goes into the denominator. -/
def scaled (num den : Nat) (two ten : Int) : Nat × Nat :=
  (num * factor two ten, den * factor (-two) (-ten))

def leastMantissa : Nat := 0x10000000000000

def unitsIn (num den : Nat) (unit : Int) : Nat :=
  let (n, d) := scaled num den (-unit) 0
  n / d

def nearest (num den : Nat) : Nat × Int :=
  if num = 0 then (0, -1074)
  else
    -- Either the guess or the unit above it leaves a mantissa of 53 bits.
    let guess : Int := Nat.log2 num - Nat.log2 den - 53
    let unit := max (if unitsIn num den guess < 2 * leastMantissa then guess else guess + 1) (-1074)
    let (n, d) := scaled num den (-unit) 0
    let mantissa := roundDiv n d
    if mantissa = 2 * leastMantissa then (leastMantissa, unit + 1) else (mantissa, unit)

/-- The power of ten is itself rounded to a double first. -/
def timesTen (value : Nat × Int) (power : Nat) : Nat × Int :=
  let multiplier := nearest (Nat.pow 10 power) 1
  let (n, d) := scaled (value.1 * multiplier.1) 1 (value.2 + multiplier.2) 0
  nearest n d

def overTen (value : Nat × Int) (power : Nat) : Nat × Int :=
  let divisor := nearest (Nat.pow 10 power) 1
  let (n, d) := scaled value.1 divisor.1 (value.2 - divisor.2) 0
  nearest n d

def greatestPower : Nat := 308

/-- Divides by a power of ten in steps that are finite doubles, until nothing is left. -/
def shrink : Nat → Nat × Int → Nat → Nat × Int
  | 0, value, _ => value
  | fuel + 1, value, power =>
    if power ≤ greatestPower then overTen value power
    else if value.1 = 0 then value
    else shrink fuel (overTen value greatestPower) (power - greatestPower)

def isFinite (value : Nat × Int) : Bool := value.2 ≤ 971

def ofDecimal? (negative : Bool) (digits : Nat) (power : Int) : Option Double :=
  let start := nearest digits 1
  if digits = 0 then some ⟨negative, start.1, start.2⟩
  else if power < 0 then
    let value := shrink (-power).toNat start (-power).toNat
    some ⟨negative, value.1, value.2⟩
  else if power ≤ greatestPower then
    let value := timesTen start power.toNat
    if isFinite value then some ⟨negative, value.1, value.2⟩ else none
  else none

/-- The least `point` with the magnitude below `10 ^ point`. -/
def point (x : Double) : Int :=
  let below (point : Int) : Bool :=
    let (n, d) := scaled x.mantissa 1 x.exponent (-point)
    n < d
  match (List.range 640).find? fun (i : Nat) => below (i - 330) with
  | some i => i - 330
  | none => 310

/-- Whether `digits * 10 ^ power` is read as the double: it lies between the midpoints to its
neighbours, or on one of them if the mantissa is even. -/
def singlesOut (x : Double) (digits : Nat) (power : Int) : Bool :=
  let low := 4 * x.mantissa - (if x.mantissa = leastMantissa ∧ -1074 < x.exponent then 1 else 2)
  let (n, d) := scaled low 1 (x.exponent - 2) (-power)
  let (m, e) := scaled (4 * x.mantissa + 2) 1 (x.exponent - 2) (-power)
  if x.mantissa % 2 = 0 then n ≤ digits * d && digits * e ≤ m
  else n < digits * d && digits * e < m

def digitsAt? (x : Double) (count : Nat) : Option (Nat × Int) :=
  let power := x.point - count
  let (n, d) := scaled x.mantissa 1 x.exponent (-power)
  match x.singlesOut (n / d) power, x.singlesOut (n / d + 1) power with
  | true, true => some (roundDiv n d, power)
  | true, false => some (n / d, power)
  | false, true => some (n / d + 1, power)
  | false, false => none

def dropZeros : Nat → Nat × Int → Nat × Int
  | 0, decimal => decimal
  | fuel + 1, (digits, power) =>
    if digits % 10 = 0 then dropZeros fuel (digits / 10, power + 1) else (digits, power)

def shortest (x : Double) : Nat × Int :=
  match (List.range 17).findSome? fun i => x.digitsAt? (i + 1) with
  | some decimal => dropZeros 17 decimal
  | none => (0, 0)

/-- Positional notation is used while the point is at most 16 places to the right of the first
digit and at most 4 zeros stand after it on the left; a whole number keeps one decimal place. -/
def magnitudeChars (x : Double) : List Char :=
  let (value, power) := x.shortest
  let digits := Nat.toDigits 10 value
  let point : Int := digits.length + power
  if 0 ≤ power ∧ point ≤ 16 then digits ++ List.replicate power.toNat '0' ++ ['.', '0']
  else if 0 < point ∧ point ≤ 16 then
    digits.take point.toNat ++ ['.'] ++ digits.drop point.toNat
  else if -5 < point ∧ point ≤ 0 then
    ['0', '.'] ++ List.replicate (-point).toNat '0' ++ digits
  else
    let exponent := point - 1
    let mark := ['e', if exponent < 0 then '-' else '+'] ++ Nat.toDigits 10 exponent.natAbs
    if digits.length = 1 then digits ++ mark
    else digits.take 1 ++ ['.'] ++ digits.drop 1 ++ mark

def chars (x : Double) : List Char :=
  (if x.negative then ['-'] else []) ++
    (if x.mantissa = 0 then ['0', '.', '0'] else x.magnitudeChars)

end Double

end QueryLint.Json
