/-
# The shortest decimal that reads back

Of all decimals that round to a given number of double precision, the one with
the fewest digits is written, and of several with as few digits the nearest.
The search is over grids: for one digit, two digits and so on, it tests the two
points of the grid on either side of the number.  All arithmetic is exact.
-/

import ApiDoc.Number.Binary64

namespace ApiDoc

/-- The decimal `digits * 10 ^ power`. -/
structure DecimalForm where
  digits : Nat
  power : Int
  deriving DecidableEq, Repr

namespace Shortest

/-- The ratio `num / den` divided by `10 ^ power`, again as a ratio. -/
def scaleDown (num den : Nat) (power : Int) : Nat × Nat :=
  match power with
  | .ofNat n => (num, den * Nat.pow 10 n)
  | .negSucc n => (num * Nat.pow 10 (n + 1), den)

/-- The exponent `e` with `10 ^ e ≤ num / den < 10 ^ (e + 1)`, for positive
arguments. -/
def decimalMagnitude (num den : Nat) : Int :=
  let guess : Int := ((Nat.toDigits 10 num).length : Int) - (Nat.toDigits 10 den).length
  let scaled := scaleDown num den guess
  if scaled.1 < scaled.2 then guess - 1 else guess

/-- The numbers that round to a given one: the closed or open interval from
`low / den` to `high / den` around `mid / den`. -/
structure Interval where
  low : Nat
  mid : Nat
  high : Nat
  den : Nat
  closed : Bool

/-- The interval of the numbers that round to `x`.  The gap below a power of two
is half the gap above it. -/
def interval (x : Binary64) : Interval :=
  let low :=
    if x.significand = Nat.pow 2 52 ∧ Binary64.minExponent < x.exponent then 4 * x.significand - 1
    else 4 * x.significand - 2
  let scaled := Binary64.scaleDown 1 1 (2 - x.exponent)
  { low := low * scaled.1
    mid := 4 * x.significand * scaled.1
    high := (4 * x.significand + 2) * scaled.1
    den := scaled.2
    closed := x.significand % 2 == 0 }

/-- Whether `point * 10 ^ power` lies in the interval. -/
def Interval.holds (i : Interval) (power : Int) (point : Nat) : Bool :=
  let low := scaleDown i.low i.den power
  let high := scaleDown i.high i.den power
  let below := low.1
  let above := high.1
  let here := point * low.2
  if i.closed then below ≤ here && here ≤ above else below < here && here < above

/-- The point of the grid of multiples of `10 ^ power` that stands for the
interval: the nearer of the two neighbours of the middle that lie in it, the
even one in a tie. -/
def Interval.point? (i : Interval) (power : Int) : Option Nat :=
  let scaled := scaleDown i.mid i.den power
  let lower := scaled.1 / scaled.2
  let twice := 2 * (scaled.1 % scaled.2)
  let upward := scaled.2 < twice ∨ (twice = scaled.2 ∧ lower % 2 = 1)
  match i.holds power lower, i.holds power (lower + 1) with
  | true, true => some (if upward then lower + 1 else lower)
  | true, false => some lower
  | false, true => some (lower + 1)
  | false, false => none

/-- Try grids from coarse to fine: `power` is the coarsest, and `tries` bounds
how many are tried. -/
def search (i : Interval) : Nat → Int → DecimalForm
  | 0, power => ⟨0, power⟩
  | tries + 1, power =>
    match i.point? power with
    | some point => ⟨point, power⟩
    | none => search i tries (power - 1)

/-- Move zeros at the end of the digits into the power of ten. -/
def withoutZeros : Nat → Nat → Int → DecimalForm
  | 0, digits, power => ⟨digits, power⟩
  | tries + 1, digits, power =>
    if digits ≠ 0 ∧ digits % 10 = 0 then withoutZeros tries (digits / 10) (power + 1)
    else ⟨digits, power⟩

end Shortest

/-- The shortest decimal that reads back as the magnitude of `x`.  Seventeen
digits always suffice. -/
def Binary64.shortest (x : Binary64) : DecimalForm :=
  if x.significand = 0 then ⟨0, 0⟩
  else
    let i := Shortest.interval x
    let found := Shortest.search i 18 (Shortest.decimalMagnitude i.mid i.den)
    Shortest.withoutZeros 18 found.digits found.power

end ApiDoc
