/-
# A place in a YAML text

Reading needs the place of a character: its line, its column and how many
characters precede it.  A cursor is a place together with the text from there
on.  Line ends are made uniform before reading, so one character ends a line.
-/

import ApiDoc.Yaml.Scalar

namespace ApiDoc.Yaml

/-- Write every line end as a line feed, except for the two separators of
Unicode, which are kept. -/
def uniformLines : List Char → List Char
  | [] => []
  | '\r' :: '\n' :: rest => '\n' :: uniformLines rest
  | '\r' :: rest => '\n' :: uniformLines rest
  | c :: rest => (if c.toNat = 0x85 then '\n' else c) :: uniformLines rest

/-- The characters a text may hold. -/
def isAllowed (c : Char) : Bool :=
  let code := c.toNat
  code == 9 || code == 10 || code == 13 || (0x20 ≤ code && code ≤ 0x7E) || code == 0x85 ||
    (0xA0 ≤ code && code ≤ 0xD7FF) || (0xE000 ≤ code && code ≤ 0xFFFD) || 0x10000 ≤ code

/-- A space or a tab. -/
def isGapChar (c : Char) : Bool :=
  c == ' ' || c == '\t'

/-- The characters of anchors and of tag handles. -/
def isWordChar (c : Char) : Bool :=
  c.isAlphanum || c == '_' || c == '-'

/-- Whether a text is at its end or goes on with a separating character. -/
def atSeparation : List Char → Bool
  | [] => true
  | c :: _ => isSeparating c

/-- Whether a text is at its end or at the end of a line. -/
def atLineEnd : List Char → Bool
  | [] => true
  | c :: _ => isBreak c

/-- A place and the text from there on. -/
structure Cursor where
  rest : List Char
  line : Nat := 0
  /-- The number of characters before on the line. -/
  column : Nat := 0
  /-- The number of characters before in the text. -/
  index : Nat := 0

namespace Cursor

/-- Pass over one character. -/
def advance (c : Cursor) : Cursor :=
  match c.rest with
  | [] => c
  | x :: rest =>
    if isBreak x then ⟨rest, c.line + 1, 0, c.index + 1⟩
    else ⟨rest, c.line, c.column + 1, c.index + 1⟩

/-- Pass over a number of characters. -/
def skip : Nat → Cursor → Cursor
  | 0, c => c
  | n + 1, c => skip n c.advance

/-- The longest run of characters of a class that holds no line end, and the
place after it. -/
def run (p : Char → Bool) (c : Cursor) : List Char × Cursor :=
  let taken := c.rest.takeWhile p
  (taken,
    { c with
      rest := c.rest.dropWhile p
      column := c.column + taken.length
      index := c.index + taken.length })

/-- Whether a document mark stands at the place. -/
def atDocumentMark (c : Cursor) : Bool :=
  c.column == 0 &&
    ("---".toList.isPrefixOf c.rest || "...".toList.isPrefixOf c.rest) &&
    atSeparation (c.rest.drop 3)

/-- Passing over a character shortens the text. -/
theorem length_advance {c : Cursor} {x : Char} {rest : List Char} (here : c.rest = x :: rest) :
    c.advance.rest.length < c.rest.length := by
  unfold advance
  rw [here]
  by_cases atBreak : isBreak x = true <;> simp [atBreak]

end Cursor

/-- What stands between two parts of a scalar: blanks on one line, or the ends of
lines. -/
structure Gap where
  blanks : List Char := []
  breaks : List Char := []

namespace Gap

/-- The line ends between two parts of a scalar as they count for its text: one
becomes a space, and of several the first is dropped. -/
def joined : List Char → List Char
  | ['\n'] => [' ']
  | '\n' :: more => more
  | breaks => breaks

/-- The text a gap stands for. -/
def text (g : Gap) : List Char :=
  if g.breaks.isEmpty then g.blanks else joined g.breaks

/-- Read a gap to its end.  Blanks after a line end do not count, but a tab among
them must not stand left of the column `least`. -/
def read (least : Nat) (g : Gap) (c : Cursor) : Option (Gap × Cursor) :=
  match _ : c.rest with
  | [] => some (g, c)
  | x :: _ =>
    if isBreak x then read least { g with breaks := g.breaks ++ [x] } c.advance
    else if isGapChar x then
      if g.breaks.isEmpty then read least { g with blanks := g.blanks ++ [x] } c.advance
      else if x = '\t' ∧ c.column < least then none
      else read least g c.advance
    else some (g, c)
termination_by c.rest.length
decreasing_by
  all_goals exact Cursor.length_advance ‹_›

end Gap

end ApiDoc.Yaml
