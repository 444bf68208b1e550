import QueryLint.Json.Basic

/-!
JSON text. A layout says what is written between the parts of a value; both layouts write blanks
only, so they differ in nothing that a reader keeps.
-/

namespace QueryLint.Json

structure Layout where
  /-- What starts a line at a nesting level. -/
  lineBreak : Nat → List Char
  afterColon : List Char

def Layout.compact : Layout := ⟨fun _ => [], []⟩

/-- One item a line, two spaces a level. -/
def Layout.pretty : Layout := ⟨fun level => '\n' :: List.replicate (2 * level) ' ', [' ']⟩

/-- Quotes, backslashes and control characters are escaped, and nothing else. -/
def escapedChar (c : Char) : List Char :=
  if c = '"' then ['\\', '"']
  else if c = '\\' then ['\\', '\\']
  else if c = '\x08' then ['\\', 'b']
  else if c = '\x0c' then ['\\', 'f']
  else if c = '\n' then ['\\', 'n']
  else if c = '\r' then ['\\', 'r']
  else if c = '\t' then ['\\', 't']
  else if c.toNat < 0x20 then
    ['\\', 'u', '0', '0', Nat.digitChar (c.toNat / 16), Nat.digitChar (c.toNat % 16)]
  else [c]

def stringChars (value : String) : List Char :=
  '"' :: value.toList.flatMap escapedChar ++ ['"']

def integerChars (value : Int) : List Char :=
  (if value < 0 then ['-'] else []) ++ Nat.toDigits 10 value.natAbs

def Number.chars : Number → List Char
  | .integer value => integerChars value
  | .real value => value.chars

mutual

def chars (layout : Layout) (level : Nat) : Json → List Char
  | .null => ['n', 'u', 'l', 'l']
  | .bool true => ['t', 'r', 'u', 'e']
  | .bool false => ['f', 'a', 'l', 's', 'e']
  | .number value => value.chars
  | .string value => stringChars value
  | .array [] => ['[', ']']
  | .array (item :: rest) =>
    '[' :: layout.lineBreak (level + 1) ++ chars layout (level + 1) item ++
      itemsChars layout (level + 1) rest ++ layout.lineBreak level ++ [']']
  | .object [] => ['\x7b', '\x7d']
  | .object ((name, value) :: rest) =>
    '\x7b' :: layout.lineBreak (level + 1) ++ stringChars name ++ ':' :: layout.afterColon ++
      chars layout (level + 1) value ++ fieldsChars layout (level + 1) rest ++
      layout.lineBreak level ++ ['\x7d']

/-- The items after the first, each behind a comma. -/
def itemsChars (layout : Layout) (level : Nat) : List Json → List Char
  | [] => []
  | item :: rest =>
    ',' :: layout.lineBreak level ++ chars layout level item ++ itemsChars layout level rest

/-- The fields after the first, each behind a comma. -/
def fieldsChars (layout : Layout) (level : Nat) : List (String × Json) → List Char
  | [] => []
  | (name, value) :: rest =>
    ',' :: layout.lineBreak level ++ stringChars name ++ ':' :: layout.afterColon ++
      chars layout level value ++ fieldsChars layout level rest

end

def render (layout : Layout) (value : Json) : String := String.ofList (value.chars layout 0)

end QueryLint.Json
