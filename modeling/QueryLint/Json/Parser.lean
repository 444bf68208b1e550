import QueryLint.Json.Basic
import QueryLint.Word

/-!
Reading JSON text. Each function takes what it reads off the front of the text and returns the
rest. The budget of the recursive ones is the length of the text, which they cannot exceed because
each call has read at least one character.
-/

namespace QueryLint.Json.Parser

def isBlank (c : Char) : Bool := c == ' ' || c == '\n' || c == '\r' || c == '\t'

def skipBlanks (text : List Char) : List Char := text.dropWhile isBlank

def hexValue? (c : Char) : Option Nat :=
  if '0' ≤ c ∧ c ≤ '9' then some (c.toNat - 48)
  else if 'a' ≤ c ∧ c ≤ 'f' then some (c.toNat - 87)
  else if 'A' ≤ c ∧ c ≤ 'F' then some (c.toNat - 55)
  else none

/-- Four hexadecimal digits. -/
def unit? : List Char → Option (Nat × List Char)
  | a :: b :: c :: d :: rest => do
    let value := (((← hexValue? a) * 16 + (← hexValue? b)) * 16 + (← hexValue? c)) * 16
    return (value + (← hexValue? d), rest)
  | _ => none

/-- The character of a code point that is no surrogate. -/
def scalar? (code : Nat) : Option Char :=
  if code < 0xD800 ∨ 0xDFFF < code then some (Char.ofNat code) else none

/-- The character that four hexadecimal digits stand for. A character beyond the first plane is
written as two units. -/
def codePoint? (text : List Char) : Option (Char × List Char) := do
  let (high, rest) ← unit? text
  if 0xD800 ≤ high ∧ high < 0xDC00 then
    match rest with
    | '\\' :: 'u' :: rest => do
      let (low, rest) ← unit? rest
      if 0xDC00 ≤ low ∧ low < 0xE000 then
        return (Char.ofNat (0x10000 + (high - 0xD800) * 0x400 + (low - 0xDC00)), rest)
      else none
    | _ => none
  else return (← scalar? high, rest)

/-- The character that stands behind a backslash. -/
def escape? : List Char → Option (Char × List Char)
  | '"' :: rest => some ('"', rest)
  | '\\' :: rest => some ('\\', rest)
  | '/' :: rest => some ('/', rest)
  | 'b' :: rest => some ('\x08', rest)
  | 'f' :: rest => some ('\x0c', rest)
  | 'n' :: rest => some ('\n', rest)
  | 'r' :: rest => some ('\r', rest)
  | 't' :: rest => some ('\t', rest)
  | 'u' :: rest => codePoint? rest
  | _ => none

/-- The characters of a string up to its closing quote. -/
def string? : Nat → List Char → Option (List Char × List Char)
  | 0, _ => none
  | _ + 1, [] => none
  | budget + 1, c :: rest =>
    if c = '"' then some ([], rest)
    else if c = '\\' then do
      let (first, rest) ← escape? rest
      let (more, rest) ← string? budget rest
      return (first :: more, rest)
    else if c.toNat < 0x20 then none
    else do
      let (more, rest) ← string? budget rest
      return (c :: more, rest)

def digitsValue (digits : List Char) : Nat :=
  digits.foldl (fun value c => 10 * value + (c.toNat - 48)) 0

/-- The longest run of leading digits whose value fits 64 bits, with its length. -/
def significand : List Char → Nat → Nat → Nat × Nat
  | [], value, count => (value, count)
  | c :: rest, value, count =>
    let next := 10 * value + (c.toNat - 48)
    if next < wordBound then significand rest next (count + 1) else (value, count)

/-- A point and the digits behind it. -/
def fraction? : List Char → Option (List Char × List Char)
  | '.' :: rest =>
    if rest.takeWhile Char.isDigit = [] then none
    else some (rest.takeWhile Char.isDigit, rest.dropWhile Char.isDigit)
  | rest => some ([], rest)

def signedDigits? (negative : Bool) (text : List Char) : Option (Int × List Char) :=
  let digits := text.takeWhile Char.isDigit
  if digits = [] then none
  else
    let value : Int := digitsValue digits
    some (if negative then -value else value, text.dropWhile Char.isDigit)

/-- The sign and digits behind an exponent mark. -/
def power? : List Char → Option (Int × List Char)
  | '-' :: rest => signedDigits? true rest
  | '+' :: rest => signedDigits? false rest
  | rest => signedDigits? false rest

/-- An exponent; a number without one has the power zero. -/
def exponent? : List Char → Option (Option Int × List Char)
  | 'e' :: rest => (power? rest).map fun (value, rest) => (some value, rest)
  | 'E' :: rest => (power? rest).map fun (value, rest) => (some value, rest)
  | rest => some (none, rest)

/-- A whole number that fits the integers keeps its value; zero has no sign there. -/
def integer? (negative : Bool) (value : Nat) : Option Int :=
  if negative then
    if 0 < value ∧ 2 * value ≤ wordBound then some (-value) else none
  else if value < wordBound then some value else none

def magnitude? (negative : Bool) (text : List Char) : Option (Number × List Char) := do
  let whole := text.takeWhile Char.isDigit
  if whole = [] ∨ (whole.head? = some '0' ∧ 1 < whole.length) then none
  let (decimals, rest) ← fraction? (text.dropWhile Char.isDigit)
  let (power, rest) ← exponent? rest
  let exact :=
    if decimals = [] ∧ power = none then integer? negative (digitsValue whole) else none
  match exact with
  | some value => return (.integer value, rest)
  | none =>
    let (digits, count) := significand (whole ++ decimals) 0 0
    let value ← Double.ofDecimal? negative digits (power.getD 0 + whole.length - count)
    return (.real value, rest)

def number? : List Char → Option (Number × List Char)
  | '-' :: rest => magnitude? true rest
  | rest => magnitude? false rest

/-- A field name with its colon. -/
def name? (budget : Nat) (text : List Char) : Option (String × List Char) :=
  match skipBlanks text with
  | '"' :: rest => do
    let (name, rest) ← string? budget rest
    match skipBlanks rest with
    | ':' :: rest => return (String.ofList name, rest)
    | _ => none
  | _ => none

mutual

def value? : Nat → List Char → Option (Json × List Char)
  | 0, _ => none
  | budget + 1, text =>
    match skipBlanks text with
    | 'n' :: 'u' :: 'l' :: 'l' :: rest => some (.null, rest)
    | 't' :: 'r' :: 'u' :: 'e' :: rest => some (.bool true, rest)
    | 'f' :: 'a' :: 'l' :: 's' :: 'e' :: rest => some (.bool false, rest)
    | '"' :: rest => do
      let (value, rest) ← string? budget rest
      return (.string (String.ofList value), rest)
    | '[' :: rest =>
      match skipBlanks rest with
      | ']' :: rest => some (.array [], rest)
      | rest => do
        let (items, rest) ← items? budget rest
        return (.array items, rest)
    | '\x7b' :: rest =>
      match skipBlanks rest with
      | '\x7d' :: rest => some (.object [], rest)
      | rest => do
        let (fields, rest) ← fields? budget rest
        return (.object fields, rest)
    | rest => do
      let (value, rest) ← number? rest
      return (.number value, rest)

/-- One item or more, up to the closing bracket. -/
def items? : Nat → List Char → Option (List Json × List Char)
  | 0, _ => none
  | budget + 1, text => do
    let (item, rest) ← value? budget text
    match skipBlanks rest with
    | ']' :: rest => return ([item], rest)
    | ',' :: rest =>
      let (more, rest) ← items? budget rest
      return (item :: more, rest)
    | _ => none

/-- One field or more, up to the closing brace. -/
def fields? : Nat → List Char → Option (List (String × Json) × List Char)
  | 0, _ => none
  | budget + 1, text => do
    let (name, rest) ← name? budget text
    let (value, rest) ← value? budget rest
    match skipBlanks rest with
    | '\x7d' :: rest => return ([(name, value)], rest)
    | ',' :: rest =>
      let (more, rest) ← fields? budget rest
      return ((name, value) :: more, rest)
    | _ => none

end

/-- The value of a whole text. -/
def parse? (text : String) : Option Json :=
  let chars := text.toList
  match value? (chars.length + 1) chars with
  | some (value, rest) => if skipBlanks rest = [] then some value else none
  | none => none

end QueryLint.Json.Parser
