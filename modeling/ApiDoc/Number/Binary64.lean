/-
# Finite numbers of double precision

A bound in a document may be a number of double precision.  Such a number is
kept here as a sign, a significand and a power of two, so that equality is
decidable and every statement about it is one about integers.  The module
supplies rounding of a ratio to the nearest such number; infinities and the
undefined value are not represented, and rounding reports when none is near.
-/

namespace ApiDoc

/-- The finite number `± significand * 2 ^ exponent`.  In the numbers that
rounding gives, the significand is below `2 ^ 53`, the exponent is at least
`-1074`, and one of the two is as small as that allows. -/
structure Binary64 where
  /-- Whether the sign is a minus; zero has a sign too. -/
  negative : Bool
  significand : Nat
  exponent : Int
  deriving DecidableEq, Repr, Inhabited

namespace Binary64

/-- The smallest exponent. -/
def minExponent : Int := -1074

/-- The largest exponent of a finite number. -/
def maxExponent : Int := 971

/-- The quotient of two numbers rounded to the nearest integer, a half going to
the even neighbour. -/
def roundQuotient (num den : Nat) : Nat :=
  let quotient := num / den
  let twice := 2 * (num % den)
  if den < twice ∨ (twice = den ∧ quotient % 2 = 1) then quotient + 1 else quotient

/-- The ratio `num / den` divided by `2 ^ power`, again as a ratio. -/
def scaleDown (num den : Nat) (power : Int) : Nat × Nat :=
  match power with
  | .ofNat n => (num, den * Nat.pow 2 n)
  | .negSucc n => (num * Nat.pow 2 (n + 1), den)

/-- The exponent `e` with `2 ^ e ≤ num / den < 2 ^ (e + 1)`, for positive
arguments. -/
def binaryMagnitude (num den : Nat) : Int :=
  let guess : Int := (num.log2 : Int) - (den.log2 : Int)
  let scaled := scaleDown num den guess
  if scaled.1 < scaled.2 then guess - 1 else guess

/-- The number nearest to `± num / den`, a tie going to the even significand, if
it is finite. -/
def ofRatio? (negative : Bool) (num den : Nat) : Option Binary64 :=
  if num = 0 then some ⟨negative, 0, minExponent⟩
  else
    let exponent := max (binaryMagnitude num den - 52) minExponent
    let scaled := scaleDown num den exponent
    let significand := roundQuotient scaled.1 scaled.2
    let carried := significand = Nat.pow 2 53
    let exponent := if carried then exponent + 1 else exponent
    let significand := if carried then Nat.pow 2 52 else significand
    if maxExponent < exponent then none else some ⟨negative, significand, exponent⟩

/-- The number nearest to `± digits * 10 ^ power`, if it is finite.  Powers far
outside the range are settled by the number of digits alone, before any power of
ten is formed. -/
def ofDecimal? (negative : Bool) (digits : Nat) (power : Int) : Option Binary64 :=
  let size : Int := (Nat.toDigits 10 digits).length
  if digits = 0 ∨ size + power < -330 then some ⟨negative, 0, minExponent⟩
  else if 310 < size + power then none
  else
    match power with
    | .ofNat n => ofRatio? negative (digits * Nat.pow 10 n) 1
    | .negSucc n => ofRatio? negative digits (Nat.pow 10 (n + 1))

end Binary64

end ApiDoc
