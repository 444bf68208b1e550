import QueryLint.Json.Printer
import QueryLint.Text.Quoted
import QueryLint.Word

/-!
Reading typed values out of JSON.

A record may be written as an object or as an array of its fields in declaration order. The array
is read as the object that names those fields in that order, so the two forms differ only in how a
missing field is reported. Faults in the fields that are given come first, in the order the fields
are written in; only then is a missing field reported.
-/

namespace QueryLint.Json

/-- What a place in a document is to hold. -/
inductive Wanted
  | string
  | boolean
  | sequence
  | index
  | nothing
  | variant
  | record (name : String)

def Wanted.text : Wanted → String
  | .string => "a string"
  | .boolean => "a boolean"
  | .sequence => "a sequence"
  | .index => "usize"
  | .nothing => "unit"
  | .variant => "string or map"
  | .record name => "struct " ++ name

inductive DecodeError
  | wrongType (found : Json) (wanted : Wanted)
  | negative (value : Int)
  | missing (field : String)
  | unknownVariant (name : String) (known : List String)
  | tooShort (position : Nat) (record : String) (size : Nat)
  | tooLong (length : Nat)
  | notOneKey

/-- How a message refers to a value that is out of place. -/
def shown : Json → String
  | .null => "null"
  | .bool true => "boolean `true`"
  | .bool false => "boolean `false`"
  | .number (.integer value) => "integer `" ++ String.ofList (integerChars value) ++ "`"
  | .number (.real value) => "floating point `" ++ String.ofList value.chars ++ "`"
  | .string value => "string " ++ Text.quoted value
  | .array _ => "sequence"
  | .object _ => "map"

def DecodeError.message : DecodeError → String
  | .wrongType found wanted => "invalid type: " ++ found.shown ++ ", expected " ++ wanted.text
  | .negative value =>
    "invalid value: integer `" ++ String.ofList (integerChars value) ++ "`, expected usize"
  | .missing field => "missing field `" ++ field ++ "`"
  | .unknownVariant name known =>
    "unknown variant `" ++ name ++ "`, expected one of " ++
      ", ".intercalate (known.map fun variant => "`" ++ variant ++ "`")
  | .tooShort position record size =>
    s!"invalid length {position}, expected struct {record} with {size} elements"
  | .tooLong length => s!"invalid length {length}, expected fewer elements in array"
  | .notOneKey => "invalid value: map, expected map with a single key"

def decodeString : Json → Except DecodeError String
  | .string value => .ok value
  | other => .error (.wrongType other .string)

def decodeBool : Json → Except DecodeError Bool
  | .bool value => .ok value
  | other => .error (.wrongType other .boolean)

/-- A natural number that 64 bits hold. -/
def decodeIndex : Json → Except DecodeError Nat
  | .number (.integer value) =>
    if value < 0 then .error (.negative value)
    else if value.toNat < wordBound then .ok value.toNat
    else .error (.wrongType (.number (.integer value)) .index)
  | other => .error (.wrongType other .index)

def decodeList {α : Type} (decode : Json → Except DecodeError α) :
    Json → Except DecodeError (List α)
  | .array items => items.mapM decode
  | other => .error (.wrongType other .sequence)

def decodeOption {α : Type} (decode : Json → Except DecodeError α) :
    Json → Except DecodeError (Option α)
  | .null => .ok none
  | other => (decode other).map some

/-- What is wrong with a value, if anything is. -/
def fault? {α : Type} (decode : Json → Except DecodeError α) (value : Json) :
    Option DecodeError :=
  match decode value with
  | .ok _ => none
  | .error error => some error

/-- A declared field of a record. -/
structure Field where
  name : String
  required : Bool
  fault? : Json → Option DecodeError

structure Shape where
  name : String
  fields : List Field

namespace Shape

/-- The first fault in what is given, in written order; fields that are not declared have none. -/
def firstFault? (shape : Shape) (given : List (String × Json)) : Option DecodeError :=
  given.findSome? fun (name, value) =>
    (shape.fields.find? (·.name == name)).bind (·.fault? value)

/-- The position of the first required field that is not given. -/
def missing? (shape : Shape) (given : List (String × Json)) : Option Nat :=
  shape.fields.findIdx? fun field => field.required && (given.lookup field.name).isNone

/-- The array form with the names of its fields. -/
def named (shape : Shape) (values : List Json) : List (String × Json) :=
  (shape.fields.map (·.name)).zip values

def missingName (shape : Shape) (position : Nat) : String :=
  (shape.fields[position]?.map (·.name)).getD ""

/-- The fields that a record gives, all of them sound and none that is required left out. -/
def read (shape : Shape) : Json → Except DecodeError (List (String × Json))
  | .object given =>
    match shape.firstFault? given with
    | some error => .error error
    | none =>
      match shape.missing? given with
      | some position => .error (.missing (shape.missingName position))
      | none => .ok given
  | .array values =>
    match shape.firstFault? (shape.named values) with
    | some error => .error error
    | none =>
      match shape.missing? (shape.named values) with
      | some position => .error (.tooShort position shape.name shape.fields.length)
      | none =>
        if shape.fields.length < values.length then .error (.tooLong values.length)
        else .ok (shape.named values)
  | other => .error (.wrongType other (.record shape.name))

end Shape

def required {α : Type} (given : List (String × Json)) (name : String)
    (decode : Json → Except DecodeError α) : Except DecodeError α :=
  match given.lookup name with
  | some value => decode value
  | none => .error (.missing name)

def defaulted {α : Type} (given : List (String × Json)) (name : String)
    (decode : Json → Except DecodeError α) (default : α) : Except DecodeError α :=
  match given.lookup name with
  | some value => decode value
  | none => .ok default

end QueryLint.Json
