/-
# The style of a scalar

A text is written plainly where nothing in it would be misread; otherwise in
single quotation marks, in double quotation marks with escapes, or, if it has
several lines, as a block that keeps them.  This module chooses the style and
writes the text in it.
-/

import ApiDoc.Text.Pieces
import ApiDoc.Yaml.Plain

namespace ApiDoc.Yaml

/-- The characters that end a line. -/
def isBreak (c : Char) : Bool :=
  c == '\n' || c == '\r' || c.toNat == 0x85 || c.toNat == 0x2028 || c.toNat == 0x2029

/-- The characters that separate tokens. -/
def isSeparating (c : Char) : Bool :=
  c == ' ' || c == '\t' || c.toNat == 0 || isBreak c

/-- The characters that can stand in a document as they are. -/
def isPrintable (c : Char) : Bool :=
  let code := c.toNat
  code == 10 || (0x20 ≤ code && code ≤ 0x7E) || (0xA0 ≤ code && code ≤ 0xD7FF) ||
    (0xE000 ≤ code && code ≤ 0xFFFD && code != 0xFEFF) || 0x10000 ≤ code

/-- How a scalar is written. -/
inductive Style where
  | plain
  | single
  | double
  | literal
  deriving DecidableEq, Repr

/-- Whether two neighbouring characters satisfy a relation somewhere. -/
def someNeighbours (p : Char → Char → Bool) : List Char → Bool
  | [] => false
  | [_] => false
  | a :: b :: rest => p a b || someNeighbours p (b :: rest)

/-- Whether the first character, or the first with the second, would start
something else than a plain scalar. -/
def startsOtherwise (s : List Char) : Bool :=
  match s with
  | [] => true
  | c :: rest =>
    ("#,[]&*!|>'\"%@\x60".toList ++ ['\x7b', '\x7d']).contains c ||
      (['?', ':', '-'].contains c && (match rest with
        | [] => true
        | d :: _ => isSeparating d)) ||
      "---".toList.isPrefixOf s || "...".toList.isPrefixOf s

/-- Whether a colon or a number sign inside would be taken for more than a
character. -/
def breaksInside (s : List Char) : Bool :=
  someNeighbours (fun a b => (a == ':' && isSeparating b) || (isSeparating a && b == '#')) s ||
    s.getLast? == some ':'

/-- Whether a text can be written plainly. -/
def plainAllowed (s : List Char) : Bool :=
  !startsOtherwise s && !breaksInside s && s.all isPrintable && !s.any isBreak &&
    s.head? != some ' ' && s.getLast? != some ' '

/-- Whether a text can be written between single quotation marks: no space may
stand next to the end of a line. -/
def singleAllowed (s : List Char) : Bool :=
  s.all isPrintable &&
    !someNeighbours (fun a b => (isBreak a && b == ' ') || (a == ' ' && isBreak b)) s

/-- Whether a text can be written as a block: no line may end in a space. -/
def literalAllowed (s : List Char) : Bool :=
  !s.isEmpty && s.all isPrintable && !someNeighbours (fun a b => a == ' ' && isBreak b) s &&
    s.getLast? != some ' '

/-- The style in which a text is written. -/
def styleOf (s : List Char) : Style :=
  if s.contains '\n' then
    if literalAllowed s then .literal else .double
  else if !isAmbiguous s && plainAllowed s then .plain
  else if singleAllowed s then .single
  else .double

/-- The upper-case hexadecimal digits of a code, padded to a width. -/
def hexText (width code : Nat) : List Char :=
  let digits := (Nat.toDigits 16 code).map Char.toUpper
  List.replicate (width - digits.length) '0' ++ digits

/-- The escape for a character that cannot stand as it is. -/
def escapeText (c : Char) : List Char :=
  match c.toNat with
  | 0x00 => ['0']
  | 0x07 => ['a']
  | 0x08 => ['b']
  | 0x09 => ['t']
  | 0x0A => ['n']
  | 0x0B => ['v']
  | 0x0C => ['f']
  | 0x0D => ['r']
  | 0x1B => ['e']
  | 0x22 => ['"']
  | 0x5C => ['\\']
  | 0x85 => ['N']
  | 0xA0 => ['_']
  | 0x2028 => ['L']
  | 0x2029 => ['P']
  | code =>
    if code ≤ 0xFF then 'x' :: hexText 2 code
    else if code ≤ 0xFFFF then 'u' :: hexText 4 code
    else 'U' :: hexText 8 code

/-- A character between double quotation marks. -/
def doubleChar (c : Char) : List Char :=
  if !isPrintable c || isBreak c || c == '"' || c == '\\' then '\\' :: escapeText c else [c]

/-- Lines set in by a number of spaces: after the end of a line, and at the start
if `fresh`, the spaces come before the next character. -/
def indented (indent : Nat) (double : Char → List Char) (fresh : Bool) : List Char → List Char
  | [] => []
  | c :: rest =>
    if isBreak c then c :: indented indent double true rest
    else
      (if fresh then List.replicate indent ' ' else []) ++ double c ++
        indented indent double false rest

/-- A character between single quotation marks. -/
def singleChar (c : Char) : List Char :=
  if c = '\'' then ['\'', '\''] else [c]

/-- The marks behind the bar of a block: that its first line starts with a space
or is empty, and whether the end of its last line is dropped or the empty lines
after it are kept. -/
def blockMarks (s : List Char) : List Char :=
  let start := match s with
    | c :: _ => if c = ' ' ∨ isBreak c then ['2'] else []
    | [] => []
  let finish := match s.reverse with
    | [] => ['-']
    | [c] => if isBreak c then ['+'] else ['-']
    | c :: d :: _ => if !isBreak c then ['-'] else if isBreak d then ['+'] else []
  start ++ finish

/-- A text in its style, whose lines after the first are set in by `indent`. -/
def scalarText (indent : Nat) (s : List Char) : List Char :=
  match styleOf s with
  | .plain => s
  | .single =>
    '\'' :: indented indent singleChar false s ++
      (if s.getLast?.any isBreak then List.replicate indent ' ' else []) ++ ['\'']
  | .double => '"' :: s.flatMap doubleChar ++ ['"']
  | .literal => '|' :: blockMarks s ++ '\n' :: indented indent (fun c => [c]) true s

/-- A text in its style up to the end of its line.  A block whose text ends a line
needs nothing more. -/
def scalarLine (indent : Nat) (s : List Char) : List Char :=
  if styleOf s = .literal ∧ s.getLast?.any isBreak then scalarText indent s
  else scalarText indent s ++ ['\n']

/-- Whether a text can stand in front of a colon: it takes one line and at most
128 bytes. -/
def isSimpleKey (s : List Char) : Bool :=
  !s.any isBreak && Text.byteSize s ≤ 128

end ApiDoc.Yaml
