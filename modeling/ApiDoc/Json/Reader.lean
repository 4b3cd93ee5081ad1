/-
# Reading JSON text

A JSON text is read into a tree of what is written.  A token may be well written and
still denote no value: a number out of range, or a string with half of a surrogate
pair.  The tree keeps its place, because a description may hold such tokens where
nobody looks.  The grammar is the strict one: no comments, no trailing commas, no
characters below the space inside strings.
-/

import ApiDoc.Json.Source

namespace ApiDoc

/-- A JSON text as it is written.  A token that denotes no value is `none`, and so
is a name that denotes no text; the members of an object are in order, with
repetitions. -/
inductive JsonText where
  | null
  | bool (value : Bool)
  | number (value : Option Number)
  | string (value : Option String)
  | array (items : List JsonText)
  | object (members : List (Option String × JsonText))
  deriving Repr, Inhabited

namespace JsonText

/-- The characters that may stand between tokens. -/
def isSpace (c : Char) : Bool :=
  c == ' ' || c == '\n' || c == '\t' || c == '\r'

/-- The text after the blanks at its start. -/
def skipSpace (s : List Char) : List Char :=
  s.dropWhile isSpace

/-- The value of a hexadecimal digit. -/
def hexValue? (c : Char) : Option Nat :=
  if c.isDigit then some (c.toNat - '0'.toNat)
  else if 'a' ≤ c ∧ c ≤ 'f' then some (c.toNat - 'a'.toNat + 10)
  else if 'A' ≤ c ∧ c ≤ 'F' then some (c.toNat - 'A'.toNat + 10)
  else none

/-- The code of a simple escape. -/
def simpleEscape? (c : Char) : Option Nat :=
  match c with
  | '"' => some 0x22
  | '\\' => some 0x5C
  | '/' => some 0x2F
  | 'b' => some 8
  | 'f' => some 12
  | 'n' => some 10
  | 'r' => some 13
  | 't' => some 9
  | _ => none

/-- Read the inside of a string up to its closing quotation mark, as codes: a
character stands for its code point and an escape for the code it gives. -/
def readCodes : List Char → Option (List Nat × List Char)
  | '"' :: rest => some ([], rest)
  | '\\' :: 'u' :: a :: b :: c :: d :: rest =>
    match hexValue? a, hexValue? b, hexValue? c, hexValue? d, readCodes rest with
    | some a, some b, some c, some d, some (codes, after) =>
      some ((((a * 16 + b) * 16 + c) * 16 + d) :: codes, after)
    | _, _, _, _, _ => none
  | '\\' :: c :: rest =>
    match simpleEscape? c, readCodes rest with
    | some code, some (codes, after) => some (code :: codes, after)
    | _, _ => none
  | c :: rest =>
    if c = '\\' ∨ c.toNat < 32 then none
    else (readCodes rest).map fun r => (c.toNat :: r.1, r.2)
  | [] => none

/-- The first half of a surrogate pair. -/
def isLeading (code : Nat) : Bool :=
  0xD800 ≤ code && code < 0xDC00

/-- The second half of a surrogate pair. -/
def isTrailing (code : Nat) : Bool :=
  0xDC00 ≤ code && code < 0xE000

/-- The characters that codes stand for; a half of a surrogate pair stands for
none. -/
def characters? : List Nat → Option (List Char)
  | [] => some []
  | [code] =>
    if isLeading code || isTrailing code then none else some [Char.ofNat code]
  | code :: next :: rest =>
    if isTrailing code then none
    else if isLeading code then
      if isTrailing next then
        let point := 0x10000 + (code - 0xD800) * 0x400 + (next - 0xDC00)
        (characters? rest).map (Char.ofNat point :: ·)
      else none
    else (characters? (next :: rest)).map (Char.ofNat code :: ·)

/-- Read a string behind its opening quotation mark. -/
def readString (s : List Char) : Option (Option String × List Char) :=
  (readCodes s).map fun r => ((characters? r.1).map String.ofList, r.2)

/-- The number written as sign, digits before and after the point, and power of
ten, where `whole` tells that neither a point nor a power is written. -/
def numberOf (negative whole : Bool) (digits fraction : List Char) (power : Int) :
    Option Number :=
  let n := Decimal.valueFrom 0 digits
  if whole && !negative && n < Decimal.nat64Limit then some (.int n)
  else if whole && negative && n ≠ 0 && n ≤ Decimal.int64Limit then some (.int (-n))
  else
    (Binary64.ofDecimal? negative (Decimal.valueFrom n fraction)
      (power - fraction.length)).map .real

/-- Read a number.  Digits must stand on both sides of a point and in a power of
ten, and no zero may stand before another digit in front. -/
def readNumber (s : List Char) : Option (Option Number × List Char) :=
  let negative : Bool := s.head? == some '-'
  let unsigned := if negative then s.tail else s
  let digits := unsigned.takeWhile Char.isDigit
  let rest := unsigned.dropWhile Char.isDigit
  let pointed : Bool := rest.head? == some '.'
  let fraction := if pointed then rest.tail.takeWhile Char.isDigit else []
  let rest := if pointed then rest.tail.dropWhile Char.isDigit else rest
  let powered : Bool := rest.head? == some 'e' || rest.head? == some 'E'
  let signed := Decimal.sign rest.tail
  let powerDigits := if powered then signed.2.takeWhile Char.isDigit else []
  let rest := if powered then signed.2.dropWhile Char.isDigit else rest
  let power : Int := Decimal.valueFrom 0 powerDigits
  if digits.isEmpty || (digits.head? == some '0' && digits.length != 1) ||
      (pointed && fraction.isEmpty) || (powered && powerDigits.isEmpty) then none
  else
    some (numberOf negative (!pointed && !powered) digits fraction
      (if powered && signed.1 then -power else power), rest)

mutual

/-- Read a value; `fuel` bounds the number of values and members on the way to
its end. -/
def readValue : Nat → List Char → Option (JsonText × List Char)
  | 0, _ => none
  | fuel + 1, s =>
    match skipSpace s with
    | 'n' :: 'u' :: 'l' :: 'l' :: rest => some (null, rest)
    | 't' :: 'r' :: 'u' :: 'e' :: rest => some (bool true, rest)
    | 'f' :: 'a' :: 'l' :: 's' :: 'e' :: rest => some (bool false, rest)
    | '"' :: rest => (readString rest).map fun r => (string r.1, r.2)
    | '[' :: rest =>
      match skipSpace rest with
      | ']' :: after => some (array [], after)
      | more => (readItems fuel more).map fun r => (array r.1, r.2)
    | '\x7b' :: rest =>
      match skipSpace rest with
      | '\x7d' :: after => some (object [], after)
      | more => (readMembers fuel more).map fun r => (object r.1, r.2)
    | more => (readNumber more).map fun r => (number r.1, r.2)

/-- Read the elements of an array and its closing bracket. -/
def readItems : Nat → List Char → Option (List JsonText × List Char)
  | 0, _ => none
  | fuel + 1, s =>
    match readValue fuel s with
    | none => none
    | some (item, rest) =>
      match skipSpace rest with
      | ',' :: more => (readItems fuel more).map fun r => (item :: r.1, r.2)
      | ']' :: after => some ([item], after)
      | _ => none

/-- Read the members of an object and its closing brace. -/
def readMembers : Nat → List Char → Option (List (Option String × JsonText) × List Char)
  | 0, _ => none
  | fuel + 1, s =>
    match skipSpace s with
    | '"' :: rest =>
      match readString rest with
      | some (name, rest) =>
        match skipSpace rest with
        | ':' :: rest =>
          match readValue fuel rest with
          | none => none
          | some (value, rest) =>
            match skipSpace rest with
            | ',' :: more => (readMembers fuel more).map fun r => ((name, value) :: r.1, r.2)
            | '\x7d' :: after => some ([(name, value)], after)
            | _ => none
        | _ => none
      | _ => none
    | _ => none

end

/-- Read a text that holds one value and nothing else. -/
def read? (s : String) : Option JsonText :=
  let text := s.toList
  match readValue (text.length + 1) text with
  | some (value, rest) => if (skipSpace rest).isEmpty then some value else none
  | none => none

/-- A token as it is shown where something else is expected. -/
def unexpected : JsonText → Unexpected
  | null => .null
  | bool value => .bool value
  | number value => .number (value.getD (.int 0))
  | string value => .string (value.getD "")
  | array _ => .sequence
  | object _ => .mapping

/-- The members of an object with their names, up to a name that denotes no
text. -/
def named : List (Option String × JsonText) → Except DecodeError (List (String × JsonText))
  | [] => .ok []
  | (some name, v) :: rest => (named rest).map ((name, v) :: ·)
  | (none, _) :: _ => .error .noValue

instance : Source JsonText where
  text
    | string (some value) => .ok value
    | string none => .error .noValue
    | v => .error (.invalidType v.unexpected "a string")
  flag
    | bool value => .ok value
    | v => .error (.invalidType v.unexpected "a boolean")
  isAbsent
    | null => .ok true
    | _ => .ok false
  elements expected
    | array items => .ok items
    | v => .error (.invalidType v.unexpected expected)
  entries
    | object members => named members
    | v => .error (.invalidType v.unexpected "a map")
  fields expected
    | object members => (named members).map .named
    | array items => .ok (.inOrder items)
    | v => .error (.invalidType v.unexpected expected)

end JsonText

end ApiDoc
