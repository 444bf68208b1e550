import QueryLint.Json.Double

/-!
JSON values. The fields of an object stay in the order they are written in, because the order
decides which of two faults is reported.
-/

namespace QueryLint

/-- A whole number between `-2 ^ 63` and `2 ^ 64` is kept as it is, any other number as a double. -/
inductive Json.Number
  | integer (value : Int)
  | real (value : Json.Double)
deriving DecidableEq, Repr

inductive Json
  | null
  | bool (value : Bool)
  | number (value : Json.Number)
  | string (value : String)
  | array (items : List Json)
  | object (fields : List (String × Json))
deriving Repr

namespace Json

def nat (value : Nat) : Json := .number (.integer value)

def strings (values : List String) : Json := .array (values.map .string)

/-- The value of a field, `null` if the object has none of that name or the value is no object. -/
def get (value : Json) (name : String) : Json :=
  match value with
  | .object fields => (fields.lookup name).getD .null
  | _ => .null

/-- The value of a field that may be absent or null. -/
def get? (value : Json) (name : String) : Option Json :=
  match value.get name with
  | .null => none
  | found => some found

/-- The items of an array; any other value has none. -/
def items : Json → List Json
  | .array items => items
  | _ => []

/-- The text of a string; any other value has none. -/
def text : Json → String
  | .string value => value
  | _ => ""

/-- A natural number, or zero for any other value. -/
def natural : Json → Nat
  | .number (.integer value) => value.toNat
  | _ => 0

def isTrue : Json → Bool
  | .bool value => value
  | _ => false

/-- How deeply arrays and objects are nested. -/
def depth : Json → Nat
  | .array items => depthOfItems items + 1
  | .object fields => depthOfFields fields + 1
  | _ => 0
where
  depthOfItems : List Json → Nat
    | [] => 0
    | item :: rest => max item.depth (depthOfItems rest)
  depthOfFields : List (String × Json) → Nat
    | [] => 0
    | (_, value) :: rest => max value.depth (depthOfFields rest)

end Json

end QueryLint
