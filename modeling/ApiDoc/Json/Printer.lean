/-
# JSON text

A JSON value is written on one line or with one member to a line, indented by
two spaces a level.  Inside strings, quotation marks, backslashes and control
characters are escaped and everything else stands as it is.
-/

import ApiDoc.Json.Basic

namespace ApiDoc.Json

/-- A hexadecimal digit. -/
def hexDigit (n : Nat) : Char :=
  (Nat.toDigits 16 (n % 16)).headD '0'

/-- A character inside a JSON string. -/
def escapedChar (c : Char) : List Char :=
  if c = '"' then ['\\', '"']
  else if c = '\\' then ['\\', '\\']
  else if c = '\n' then ['\\', 'n']
  else if c = '\r' then ['\\', 'r']
  else if c = '\t' then ['\\', 't']
  else if c.toNat = 8 then ['\\', 'b']
  else if c.toNat = 12 then ['\\', 'f']
  else if c.toNat < 32 then
    ['\\', 'u', '0', '0', hexDigit (c.toNat / 16), hexDigit c.toNat]
  else [c]

/-- A text as a JSON string. -/
def stringText (s : String) : List Char :=
  '"' :: s.toList.flatMap escapedChar ++ ['"']

/-- How values are set out: on one line, or over several at a depth. -/
inductive Setting where
  | line
  | block (depth : Nat)

namespace Setting

/-- The setting of what stands inside. -/
def inner : Setting → Setting
  | line => line
  | block depth => block (depth + 1)

/-- What stands in front of a member, an element or a closing bracket. -/
def lineStart : Setting → List Char
  | line => []
  | block depth => '\n' :: List.replicate (2 * depth) ' '

/-- What stands between a name and its value. -/
def colon : Setting → List Char
  | line => [':']
  | block _ => [':', ' ']

end Setting

mutual

/-- The text of a value. -/
def write (s : Setting) : Json → List Char
  | null => ['n', 'u', 'l', 'l']
  | bool true => ['t', 'r', 'u', 'e']
  | bool false => ['f', 'a', 'l', 's', 'e']
  | number value => (value.text .json).toList
  | string value => stringText value
  | array [] => ['[', ']']
  | array (first :: rest) =>
    '[' :: s.inner.lineStart ++ write s.inner first ++ writeItems s.inner rest ++
      s.lineStart ++ [']']
  | object [] => ['\x7b', '\x7d']
  | object ((name, value) :: rest) =>
    '\x7b' :: s.inner.lineStart ++ stringText name ++ s.colon ++ write s.inner value ++
      writeMembers s.inner rest ++ s.lineStart ++ ['\x7d']

/-- The text of the elements after the first. -/
def writeItems (s : Setting) : List Json → List Char
  | [] => []
  | item :: rest => ',' :: s.lineStart ++ write s item ++ writeItems s rest

/-- The text of the members after the first. -/
def writeMembers (s : Setting) : List (String × Json) → List Char
  | [] => []
  | (name, value) :: rest =>
    ',' :: s.lineStart ++ stringText name ++ s.colon ++ write s value ++ writeMembers s rest

end

/-- A value on one line. -/
def compact (v : Json) : String :=
  String.ofList (v.write .line)

/-- A value over several lines, indented by two spaces a level. -/
def pretty (v : Json) : String :=
  String.ofList (v.write (.block 0))

end ApiDoc.Json
