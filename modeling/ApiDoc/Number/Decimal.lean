/-
# Reading numbers written in decimal

Bounds and numbers in files are written in decimal.  This module supplies the
reading of digit strings, of integers with an optional sign, and of numbers with
a fraction and a power of ten, the last rounded to double precision.
-/

import ApiDoc.Number.Binary64

namespace ApiDoc.Decimal

/-- The first natural number that does not fit into 64 bits. -/
def nat64Limit : Nat := 18446744073709551616

/-- The first natural number that does not fit into 64 bits with a sign. -/
def int64Limit : Nat := 9223372036854775808

/-- The value of a digit. -/
def digitValue (c : Char) : Nat :=
  c.toNat - '0'.toNat

/-- The number that a list of digits denotes, continuing from `start`. -/
def valueFrom (start : Nat) (digits : List Char) : Nat :=
  digits.foldl (fun n c => 10 * n + digitValue c) start

/-- The number a text of one or more decimal digits denotes. -/
def natural? (s : List Char) : Option Nat :=
  if s.isEmpty || !s.all Char.isDigit then none else some (valueFrom 0 s)

/-- A sign, if one is written, and the text after it.  The sign is `true` for a
minus. -/
def sign : List Char → Bool × List Char
  | '-' :: rest => (true, rest)
  | '+' :: rest => (false, rest)
  | s => (false, s)

/-- The integer a text denotes: an optional sign and one or more digits. -/
def integer? (s : List Char) : Option Int :=
  let signed := sign s
  (natural? signed.2).map fun n => if signed.1 then -(n : Int) else (n : Int)

/-- The integer a text denotes, if it fits into 64 bits with a sign. -/
def int64? (s : List Char) : Option Int :=
  (integer? s).filter fun n => -int64Limit ≤ n && n < int64Limit

/-- The natural number a text denotes, if it fits into 64 bits; a plus may stand
in front. -/
def nat64? (s : List Char) : Option Nat :=
  let digits := match s with
    | '+' :: rest => rest
    | _ => s
  (natural? digits).filter fun n => n < nat64Limit

/-- The power of ten written at the end of a number: nothing, or `e` or `E` and
an integer. -/
def power? : List Char → Option Int
  | [] => some 0
  | c :: rest => if c = 'e' ∨ c = 'E' then integer? rest else none

/-- The number a text denotes, rounded to double precision: an optional sign,
digits with an optional point among or around them, and an optional power of
ten.  There must be a digit, and the number must be within the range. -/
def real? (s : List Char) : Option Binary64 :=
  let signed := sign s
  let whole := signed.2.takeWhile Char.isDigit
  let afterWhole := signed.2.dropWhile Char.isDigit
  let fractional : Bool := afterWhole.head? == some '.'
  let fraction := if fractional then afterWhole.tail.takeWhile Char.isDigit else []
  let rest := if fractional then afterWhole.tail.dropWhile Char.isDigit else afterWhole
  if whole.isEmpty && fraction.isEmpty then none
  else
    match power? rest with
    | none => none
    | some power =>
      Binary64.ofDecimal? signed.1 (valueFrom (valueFrom 0 whole) fraction)
        (power - fraction.length)

end ApiDoc.Decimal
