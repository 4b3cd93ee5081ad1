/-
# Reading scalars

The three ways of writing a scalar have their own rules for line ends and for
what ends them.  Each function here starts at the first character of the scalar
and gives its text and the place after it, or nothing if the text breaks a rule.
`fuel` is at least the length of the text that is left.
-/

import ApiDoc.Json.Reader
import ApiDoc.Yaml.Cursor

namespace ApiDoc.Yaml

/-- The characters that end a plain scalar inside brackets. -/
def endsFlowScalar (c : Char) : Bool :=
  [',', '[', ']', '\x7b', '\x7d'].contains c

/-- The part of a plain scalar up to the next gap, indicator or end; nothing if a
colon stands directly before a bracket inside brackets. -/
def plainWord (inFlow : Bool) : List Char → Option (List Char)
  | [] => some []
  | c :: rest =>
    if isSeparating c then some []
    else if inFlow && c == ':' && rest.head?.any (fun d => d == '?' || endsFlowScalar d) then none
    else if (c == ':' && atSeparation rest) || (inFlow && endsFlowScalar c) then some []
    else (plainWord inFlow rest).map (c :: ·)

/-- Read a plain scalar.  On later lines it must stand at least at the column
`least`, unless it is inside brackets.  Besides the text and the place after it,
the result tells whether the scalar was followed by the end of a line. -/
def readPlain (inFlow : Bool) (least : Nat) (fuel : Nat) (pending : Gap) (c : Cursor) :
    Option (List Char × Cursor × Bool) :=
  match fuel with
  | 0 => none
  | fuel + 1 =>
    let ended := some ([], c, !pending.breaks.isEmpty)
    if c.atDocumentMark || c.rest.head? == some '#' then ended
    else
      match plainWord inFlow c.rest with
      | none => none
      | some [] => ended
      | some word =>
        let after := c.skip word.length
        match Gap.read least {} after with
        | none => none
        | some (gap, next) =>
          let here := pending.text ++ word
          if !atSeparation after.rest || after.rest.isEmpty then some (here, after, false)
          else if !inFlow && next.column < least then
            some (here, next, !gap.breaks.isEmpty)
          else (readPlain inFlow least fuel gap next).map fun r => (here ++ r.1, r.2)

/-- Read a scalar between single quotation marks, behind the opening one. -/
def readSingle (fuel : Nat) (c : Cursor) : Option (List Char × Cursor) :=
  match fuel with
  | 0 => none
  | fuel + 1 =>
    if c.atDocumentMark then none
    else
      match c.rest with
      | [] => none
      | '\'' :: '\'' :: _ => (readSingle fuel (c.skip 2)).map fun r => ('\'' :: r.1, r.2)
      | '\'' :: _ => some ([], c.advance)
      | x :: _ =>
        if isSeparating x then
          (Gap.read 0 {} c).bind fun g =>
            (readSingle fuel g.2).map fun r => (g.1.text ++ r.1, r.2)
        else (readSingle fuel c.advance).map fun r => (x :: r.1, r.2)

/-- The character that a one-letter escape stands for. -/
def letterEscape? (c : Char) : Option Nat :=
  match c with
  | '0' => some 0
  | 'a' => some 7
  | 'b' => some 8
  | 't' => some 9
  | '\t' => some 9
  | 'n' => some 10
  | 'v' => some 11
  | 'f' => some 12
  | 'r' => some 13
  | 'e' => some 0x1B
  | ' ' => some 0x20
  | '"' => some 0x22
  | '/' => some 0x2F
  | '\\' => some 0x5C
  | 'N' => some 0x85
  | '_' => some 0xA0
  | 'L' => some 0x2028
  | 'P' => some 0x2029
  | _ => none

/-- The number of hexadecimal digits that an escape takes. -/
def escapeWidth? (c : Char) : Option Nat :=
  match c with
  | 'x' => some 2
  | 'u' => some 4
  | 'U' => some 8
  | _ => none

/-- The character that an escape of hexadecimal digits stands for. -/
def numericEscape? (width : Nat) (s : List Char) : Option Char :=
  let digits := s.take width
  if digits.length ≠ width || !digits.all (isDigitOf 16) then none
  else
    let code := digits.foldl (fun n c => 16 * n + digitOf c) 0
    if code.isValidChar then some (Char.ofNat code) else none

/-- Read a scalar between double quotation marks, behind the opening one. -/
def readDouble (fuel : Nat) (c : Cursor) : Option (List Char × Cursor) :=
  match fuel with
  | 0 => none
  | fuel + 1 =>
    if c.atDocumentMark then none
    else
      match c.rest with
      | [] => none
      | '"' :: _ => some ([], c.advance)
      | ['\\'] => none
      | '\\' :: x :: digits =>
        if isBreak x then
          (Gap.read 0 { breaks := [x] } (c.skip 2)).bind fun g =>
            (readDouble fuel g.2).map fun r => (g.1.breaks.drop 1 ++ r.1, r.2)
        else
          match letterEscape? x, escapeWidth? x with
          | some code, _ => (readDouble fuel (c.skip 2)).map fun r => (Char.ofNat code :: r.1, r.2)
          | none, some width =>
            match numericEscape? width digits with
            | some d => (readDouble fuel (c.skip (2 + width))).map fun r => (d :: r.1, r.2)
            | none => none
          | none, none => none
      | x :: _ =>
        if isSeparating x then
          (Gap.read 0 {} c).bind fun g =>
            (readDouble fuel g.2).map fun r => (g.1.text ++ r.1, r.2)
        else (readDouble fuel c.advance).map fun r => (x :: r.1, r.2)

/-- What happens to the line ends after the last line of a block. -/
inductive Chomp where
  | strip
  | clip
  | keep
  deriving DecidableEq, Repr

/-- A sign for the line ends of a block, if there is one. -/
def chompMark? : List Char → Option (Chomp × List Char)
  | '+' :: rest => some (.keep, rest)
  | '-' :: rest => some (.strip, rest)
  | _ => none

/-- A digit for the indentation of a block, if there is one; zero is none. -/
def indentMark? : List Char → Option (Option (Nat × List Char))
  | c :: rest =>
    if c.isDigit then if c = '0' then none else some (some (c.toNat - '0'.toNat, rest))
    else some none
  | [] => some none

/-- The marks of a block in either order: what happens to its line ends, its
indentation, and how many characters the marks take. -/
def blockHeader? (s : List Char) : Option (Chomp × Option Nat × Nat) :=
  match chompMark? s with
  | some (chomp, rest) =>
    match indentMark? rest with
    | none => none
    | some none => some (chomp, none, 1)
    | some (some (n, _)) => some (chomp, some n, 2)
  | none =>
    match indentMark? s with
    | none => none
    | some none => some (.clip, none, 0)
    | some (some (n, rest)) =>
      match chompMark? rest with
      | some (chomp, _) => some (chomp, some n, 2)
      | none => some (.clip, some n, 1)

/-- Read the empty lines of a block and the indentation of the line after them,
up to the column `limit` where one is set.  The result is the line ends, the
greatest column reached and the place. -/
def readEmptyLines (limit : Option Nat) (breaks : List Char) (reached : Nat) (fuel : Nat)
    (c : Cursor) : Option (List Char × Nat × Cursor) :=
  match fuel with
  | 0 => none
  | fuel + 1 =>
    let inside := limit.all fun n => c.column < n
    let reached := max reached c.column
    match c.rest with
    | x :: _ =>
      if inside && x == ' ' then readEmptyLines limit breaks reached fuel c.advance
      else if inside && x == '\t' then none
      else if isBreak x then readEmptyLines limit (breaks ++ [x]) reached fuel c.advance
      else some (breaks, reached, c)
    | [] => some (breaks, reached, c)

/-- Read the lines of a block that stand at the column `indent`.  `lead` is the
end of the line before and `empty` are the ends of the empty lines after it;
`blankBefore` tells whether the line before started with a blank. -/
def readBlockLines (folded : Bool) (chomp : Chomp) (indent : Nat) (fuel : Nat)
    (lead empty : List Char) (blankBefore : Bool) (c : Cursor) :
    Option (List Char × Cursor) :=
  match fuel with
  | 0 => none
  | fuel + 1 =>
    if c.column = indent ∧ c.rest ≠ [] then
      let blankHere := c.rest.head?.any isGapChar
      let join :=
        if folded && lead == ['\n'] && !blankBefore && !blankHere then
          if empty.isEmpty then [' '] else []
        else lead
      let line := c.run fun x => !isBreak x
      let lead' := line.2.rest.take 1
      match readEmptyLines (some indent) [] 0 (line.2.rest.length + 1) line.2.advance with
      | none => none
      | some (empty', _, next) =>
        (readBlockLines folded chomp indent fuel lead' empty' blankHere next).map fun r =>
          (join ++ empty ++ line.1 ++ r.1, r.2)
    else
      some ((match chomp with
        | .strip => []
        | .clip => lead
        | .keep => lead ++ empty), c)

/-- Read a block behind its bar or angle.  The block belongs to a collection set
in by `parent`, which is less than zero at the top. -/
def readBlock (folded : Bool) (parent : Int) (fuel : Nat) (c : Cursor) :
    Option (List Char × Cursor) :=
  match blockHeader? c.rest with
  | none => none
  | some (chomp, indent, size) =>
    let gap := ((c.skip size).run isGapChar).2
    let after :=
      if gap.rest.head? == some '#' then (gap.run fun x => !isBreak x).2 else gap
    if !atLineEnd after.rest then none
    else
      let base : Nat := (max parent 0).toNat
      let fixed := indent.map fun n => base + n
      match readEmptyLines fixed [] 0 fuel after.advance with
      | none => none
      | some (empty, reached, next) =>
        let column := fixed.getD (max reached (max (parent + 1) 1).toNat)
        readBlockLines folded chomp column fuel [] empty false next

end ApiDoc.Yaml
