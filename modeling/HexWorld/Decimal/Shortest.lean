import HexWorld.Decimal.Binary

/-!
# Shortest decimals

The decimal with the fewest digits among those that read back as a given binary number, and of
those with equally few digits the nearest. A decimal reads back if it lies in the interval of the
reals that round to the number; the ends belong to it when the significand is even.

## Contents
- `Decimal`, digits with the power of ten of the first.
- `Interval`, the reals that round to a number.
- `shortest`, the decimal.
-/

namespace HexWorld

/-- The number `d₁.d₂d₃… * 10 ^ exponent`. -/
structure Decimal where
  digits : List Nat
  exponent : Int
  deriving DecidableEq, Repr

namespace Decimal

/-- A power of ten. -/
def tenPow (e : Int) : Rat :=
  if 0 ≤ e then (Nat.pow 10 e.toNat : Nat) else 1 / (Nat.pow 10 (-e).toNat : Nat)

/-- The decimal digits of a number, first digit first; zero has one digit. -/
def digitsOf (n : Nat) : List Nat :=
  (Nat.toDigits 10 n).map fun c => c.toNat - '0'.toNat

/-- The number that digits write. -/
def ofDigits (digits : List Nat) : Nat :=
  digits.foldl (fun n d => n * 10 + d) 0

/-- Without the zeros at the end. -/
def stripZeros (digits : List Nat) : List Nat :=
  (digits.reverse.dropWhile (· == 0)).reverse

/-- The number `n * 10 ^ unit`, for a positive `n`. -/
def ofScaled (n : Nat) (unit : Int) : Decimal :=
  let digits := digitsOf n
  ⟨stripZeros digits, unit + (digits.length - 1 : Nat)⟩

end Decimal

/-- The reals that round to a number: between `lower` and `upper`, with the ends if `closed`. -/
structure Interval where
  lower : Rat
  upper : Rat
  closed : Bool

namespace Interval

def contains (i : Interval) (r : Rat) : Bool :=
  if i.closed then i.lower ≤ r && r ≤ i.upper else i.lower < r && r < i.upper

/-- Half a unit of the last place on either side. Below a power of two the neighbour is only half
as far. -/
def around (f : Format) (x : Magnitude) : Interval :=
  let unit := Magnitude.twoPow x.exponent
  let near := x.significand = Nat.pow 2 (f.precision - 1) ∧ f.least < x.exponent
  ⟨x.toRat - unit / (if near then 4 else 2), x.toRat + unit / 2, x.significand % 2 = 0⟩

end Interval

/-- The exponent of the greatest power of ten that is not above `r`, for a positive `r`. -/
def decimalExponent (r : Rat) : Int :=
  let guess : Int :=
    ((Decimal.digitsOf r.num.natAbs).length : Int) - (Decimal.digitsOf r.den).length
  if Decimal.tenPow guess ≤ r then guess else guess - 1

/-- The multiple of `10 ^ unit` nearest to `r` in the interval: one of the two neighbours of `r` is
in it if any multiple is. -/
def nearestMultiple? (i : Interval) (r : Rat) (unit : Int) : Option Decimal :=
  let below := (r / Decimal.tenPow unit).floor.toNat
  let value (n : Nat) : Rat := n * Decimal.tenPow unit
  let low := value below
  let high := value (below + 1)
  match decide (0 < below) && i.contains low, i.contains high with
  | true, true => some (.ofScaled (if r - low ≤ high - r then below else below + 1) unit)
  | true, false => some (.ofScaled below unit)
  | false, true => some (.ofScaled (below + 1) unit)
  | false, false => none

/-- Tries grids of one, two, … digits; `count` of them are left, and `unit` is the next. -/
def firstGrid (i : Interval) (r : Rat) : Nat → Int → Decimal
  | 0, unit => .ofScaled (r / Decimal.tenPow unit).floor.toNat unit
  | count + 1, unit => (nearestMultiple? i r unit).getD (firstGrid i r count (unit - 1))

/-- The shortest decimal of a magnitude. Seventeen digits are enough for either format. -/
def shortest (f : Format) (x : Magnitude) : Decimal :=
  if x.isZero then ⟨[0], 0⟩
  else firstGrid (.around f x) x.toRat 17 (decimalExponent x.toRat)

end HexWorld
