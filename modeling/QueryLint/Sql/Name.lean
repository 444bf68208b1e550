/-!
Names in SQL: identifiers and the dotted names made of them.
-/

namespace QueryLint.Sql

/-- The stretch of text that a token came from. -/
structure Span where
  startLine : Nat
  startColumn : Nat
  endLine : Nat
  endColumn : Nat
deriving DecidableEq, Repr

/-- The span of something that came from no text. -/
def Span.empty : Span := ⟨0, 0, 0, 0⟩

structure Ident where
  value : String
  quote : Option Char
  span : Span
deriving DecidableEq, Repr

/-- A part of a dotted name is an identifier or is computed by a call. -/
inductive NamePart
  | ident (name : Ident)
  | computed
deriving DecidableEq, Repr

def NamePart.ident? : NamePart → Option Ident
  | .ident name => some name
  | .computed => none

abbrev ObjectName := List NamePart

def ObjectName.idents (name : ObjectName) : List Ident := name.filterMap NamePart.ident?

end QueryLint.Sql
