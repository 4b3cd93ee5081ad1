/-
# Comment markers and quotation marks

Documentation lines reach the model as they were written, with `//` in front;
annotation values reach it with their quotation marks.  `withoutMarkers` and
`unquote` give the text a reader of the document should see.
-/

import ApiDoc.Text.Blank

namespace ApiDoc.Text

/-- Remove every `//`, scanning from the left without overlap, so that of a run
of slashes one is left exactly when their number is odd. -/
def eraseMarkers : List Char → List Char
  | [] => []
  | [c] => [c]
  | c :: d :: rest =>
    if c = '/' ∧ d = '/' then eraseMarkers rest else c :: eraseMarkers (d :: rest)

/-- The text of a comment: no `//` markers and no blanks at the ends. -/
def withoutMarkers (s : String) : String :=
  String.ofList (trim (eraseMarkers s.toList))

/-- The value of a quoted property: blanks at the ends go first, then every
quotation mark at either end. -/
def unquote (s : String) : String :=
  String.ofList
    (dropEndWhile (· == '"') ((trim s.toList).dropWhile (· == '"')))

end ApiDoc.Text
