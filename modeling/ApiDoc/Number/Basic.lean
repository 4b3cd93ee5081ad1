/-
# Numbers in documents

A number is an integer or a number of double precision.  The two are told apart
even where their values agree: `5` is an integer and `5.0` is not.  This module
supplies the type, the reading of a bound, and the text of a number in the two
output formats.
-/

import ApiDoc.Number.Decimal
import ApiDoc.Number.Shortest

namespace ApiDoc

/-- A number of a document. -/
inductive Number where
  | int (value : Int)
  | real (value : Binary64)
  deriving DecidableEq, Repr, Inhabited

/-- How a number of double precision is laid out.  Both formats write magnitudes
from `10 ^ -5` up to `10 ^ 16` in positional notation, with `.0` after a whole
number, and all others with a power of ten. -/
structure RealLayout where
  /-- What stands in front of a power of ten that is not negative. -/
  plus : String

/-- The layout of numbers in JSON. -/
def RealLayout.json : RealLayout := ⟨"+"⟩

/-- The layout of numbers in YAML. -/
def RealLayout.yaml : RealLayout := ⟨""⟩

namespace RealLayout

/-- Digits with a point after the first of them. -/
def pointed : List Char → List Char
  | [] => []
  | [d] => [d]
  | d :: rest => d :: '.' :: rest

/-- The text of a decimal whose digits are `digits` and whose point stands after
the first `place` of them. -/
def magnitude (layout : RealLayout) (digits : List Char) (place : Int) : List Char :=
  let size : Int := digits.length
  if size ≤ place ∧ place ≤ 16 then
    digits ++ List.replicate (place - size).toNat '0' ++ ['.', '0']
  else if 0 < place ∧ place ≤ 16 then
    digits.take place.toNat ++ '.' :: digits.drop place.toNat
  else if -5 < place ∧ place ≤ 0 then
    '0' :: '.' :: List.replicate (-place).toNat '0' ++ digits
  else
    let power := place - 1
    let sign := if power < 0 then "-" else layout.plus
    pointed digits ++ 'e' :: sign.toList ++ Nat.toDigits 10 power.natAbs

/-- The text of a number of double precision: the shortest digits that read
back, in this layout. -/
def text (layout : RealLayout) (x : Binary64) : List Char :=
  let form := x.shortest
  let digits := Nat.toDigits 10 form.digits
  let place : Int := if form.digits = 0 then 1 else digits.length + form.power
  (if x.negative then ['-'] else []) ++ layout.magnitude digits place

end RealLayout

namespace Number

/-- The number that the value of a rule denotes: an integer of 64 bits if it
reads as one, otherwise a finite number of double precision. -/
def read? (s : List Char) : Option Number :=
  match Decimal.int64? s with
  | some n => some (int n)
  | none => (Decimal.real? s).map real

/-- The text of a number. -/
def text (layout : RealLayout) : Number → String
  | int n => toString n
  | real x => String.ofList (layout.text x)

end Number

end ApiDoc
