/-!
Finding a fixed piece of text.
-/

namespace QueryLint.Text

/-- What stands behind a piece at the start of a text, if the text starts with it. -/
def after? (piece text : List Char) : Option (List Char) :=
  if piece.isPrefixOf text then some (text.drop piece.length) else none

/-- Whether a piece occurs anywhere in a text. -/
def occurs (piece : List Char) : List Char → Bool
  | [] => piece.isEmpty
  | c :: rest => piece.isPrefixOf (c :: rest) || occurs piece rest

end QueryLint.Text
