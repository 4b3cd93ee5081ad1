/-
# What plain scalars mean

A YAML scalar without quotation marks denotes nothing, a truth value, a number or
a text, depending on how it looks.  This module tells which looks denote what, so
that a text that would be taken for something else can be quoted.
-/

import ApiDoc.Number.Decimal

namespace ApiDoc.Yaml

/-- The spellings of the absent value. -/
def isNull (s : List Char) : Bool :=
  [ [], ['~'], "null".toList, "Null".toList, "NULL".toList ].contains s

/-- The truth value a plain scalar denotes. -/
def truth? (s : List Char) : Option Bool :=
  if ["true".toList, "True".toList, "TRUE".toList].contains s then some true
  else if ["false".toList, "False".toList, "FALSE".toList].contains s then some false
  else none

/-- A digit of a base up to sixteen. -/
def isDigitOf (base : Nat) (c : Char) : Bool :=
  if c.isDigit then c.toNat - '0'.toNat < base
  else if 'a' ≤ c ∧ c ≤ 'f' then c.toNat - 'a'.toNat + 10 < base
  else if 'A' ≤ c ∧ c ≤ 'F' then c.toNat - 'A'.toNat + 10 < base
  else false

/-- The value of a digit of a base up to sixteen. -/
def digitOf (c : Char) : Nat :=
  if c.isDigit then c.toNat - '0'.toNat
  else if 'a' ≤ c then c.toNat - 'a'.toNat + 10
  else c.toNat - 'A'.toNat + 10

/-- Whether a text of digits of a base denotes a number of at most `limit`. -/
def fits (base limit : Nat) (s : List Char) : Bool :=
  !s.isEmpty && s.all (isDigitOf base) && s.foldl (fun n c => base * n + digitOf c) 0 ≤ limit

/-- Whether a text is a base mark and digits that denote a number of at most
`limit`. -/
def isBased (limit : Nat) : List Char → Bool
  | '0' :: 'x' :: digits => fits 16 limit digits
  | '0' :: 'o' :: digits => fits 8 limit digits
  | '0' :: 'b' :: digits => fits 2 limit digits
  | _ => false

/-- Integers in base sixteen, eight or two have up to 128 bits. -/
def isBasedInteger : List Char → Bool
  | '-' :: rest => isBased (Nat.pow 2 127) rest
  | '+' :: rest => isBased (Nat.pow 2 128 - 1) rest
  | s => isBased (Nat.pow 2 128 - 1) s

/-- A run of digits that starts with a zero is a text and not a number. -/
def isZeroLed (s : List Char) : Bool :=
  let digits := match s with
    | '-' :: rest => rest
    | '+' :: rest => rest
    | _ => s
  1 < digits.length && digits.head? == some '0' && digits.all Char.isDigit

/-- The spellings of the infinities and of the undefined number. -/
def isSpecialNumber (s : List Char) : Bool :=
  let unsigned := match s with
    | '-' :: rest => rest
    | '+' :: rest => rest
    | _ => s
  [".inf".toList, ".Inf".toList, ".INF".toList].contains unsigned ||
    [".nan".toList, ".NaN".toList, ".NAN".toList].contains s

/-- Numbers written in decimal.  One sign may stand in front. -/
def isDecimal (s : List Char) : Bool :=
  match s with
  | '+' :: '+' :: _ => false
  | '+' :: '-' :: _ => false
  | '+' :: rest => (Decimal.real? rest).isSome
  | _ => (Decimal.real? s).isSome

/-- Whether a plain scalar denotes a number, or looks so much like one that it is
quoted all the same. -/
def looksNumeric (s : List Char) : Bool :=
  isBasedInteger s || isZeroLed s || isSpecialNumber s || isDecimal s

/-- Whether a text must not stand as a plain scalar because it would denote
something else. -/
def isAmbiguous (s : List Char) : Bool :=
  isNull s || (truth? s).isSome || looksNumeric s

end ApiDoc.Yaml
