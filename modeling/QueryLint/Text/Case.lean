import QueryLint.Text.CaseTable

/-!
Lower-casing of whole texts, and comparison of texts up to the case of ASCII letters.

A letter is lowered on its own, except that a capital sigma becomes `ς` at the end of a word and
`σ` elsewhere, so lowering a text is not lowering its characters one by one.
-/

namespace QueryLint.Text

def lowerChar (c : Char) : List Char :=
  if c = 'İ' then ['i', '\u0307']
  else match caseRuns.find? (·.covers c) with
    | some run => [run.lower c]
    | none => [c]

def startsCased (chars : List Char) : Bool :=
  match chars.dropWhile isCaseIgnorable with
  | [] => false
  | c :: _ => isCased c

/-- A sigma ends a word if a letter stands before it and none after it; `before` is read
backwards. -/
def endsWord (before after : List Char) : Bool :=
  startsCased before && !startsCased after

def lowerFrom (before : List Char) : List Char → List Char
  | [] => []
  | c :: rest =>
    (if c = 'Σ' then [if endsWord before rest then 'ς' else 'σ'] else lowerChar c) ++
      lowerFrom (c :: before) rest

def lowercase (text : String) : String := String.ofList (lowerFrom [] text.toList)

/-- Equality up to the case of the letters `a` to `z`; every other character counts as it is. -/
def eqIgnoringAsciiCase (left right : String) : Bool :=
  left.toList.map Char.toLower == right.toList.map Char.toLower

end QueryLint.Text
