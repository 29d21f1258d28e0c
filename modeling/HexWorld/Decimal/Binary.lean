/-!
# Binary numbers of a fixed precision

Finite binary numbers as exact values: a significand times a power of two. Arithmetic is done on
rationals and rounded once, to the nearest number of the format, a tie going to the even
significand.

## Contents
- `Format`, the number of significant bits and the range of exponents; `Format.single` and
  `Format.double` are the two in use.
- `Magnitude`, a finite number without its sign, and `Magnitude.toRat`, its value.
- `Format.nearest?`, rounding; `none` above the greatest number.
- `Binary`, a signed number, infinity or no number at all.
-/

namespace HexWorld

/-- A nonnegative finite number `significand * 2 ^ exponent`. -/
structure Magnitude where
  significand : Nat
  exponent : Int
  deriving DecidableEq, Repr

namespace Magnitude

/-- A power of two. -/
def twoPow (e : Int) : Rat :=
  if 0 ≤ e then (Nat.pow 2 e.toNat : Nat) else 1 / (Nat.pow 2 (-e).toNat : Nat)

/-- The value of a number. -/
def toRat (x : Magnitude) : Rat :=
  x.significand * twoPow x.exponent

def isZero (x : Magnitude) : Bool :=
  x.significand == 0

end Magnitude

/-- The nearest integer, the even one of two. -/
def roundEven (r : Rat) : Int :=
  let below := r.floor
  let rest := r - below
  if rest < 1 / 2 then below
  else if 1 / 2 < rest then below + 1
  else if below % 2 = 0 then below
  else below + 1

/-- A binary format: significands have `precision` bits, and the exponents of the last place go
from `least` to `greatest`. -/
structure Format where
  precision : Nat
  least : Int
  greatest : Int
  deriving DecidableEq, Repr

namespace Format

/-- Numbers of 32 bits. -/
def single : Format := ⟨24, -149, 104⟩

/-- Numbers of 64 bits. -/
def double : Format := ⟨53, -1074, 971⟩

/-- The exponent of the greatest power of two that is not above `r`, for a positive `r`. -/
def binaryExponent (r : Rat) : Int :=
  let guess : Int := (Nat.log2 r.num.natAbs : Int) - Nat.log2 r.den
  if Magnitude.twoPow guess ≤ r then guess else guess - 1

/-- The number nearest to `r ≥ 0`, or `none` if that would be above the greatest number. Rounding
up to a full power of two moves one place to the left, so that equal values are equal numbers. -/
def nearest? (f : Format) (r : Rat) : Option Magnitude :=
  if r = 0 then some ⟨0, f.least⟩
  else
    let e := max f.least (binaryExponent r - (f.precision - 1 : Nat))
    let m := (roundEven (r / Magnitude.twoPow e)).toNat
    let x : Magnitude :=
      if m = Nat.pow 2 f.precision then ⟨Nat.pow 2 (f.precision - 1), e + 1⟩ else ⟨m, e⟩
    if x.exponent ≤ f.greatest then some x else none

end Format

/-- A number of format `f`, infinity, or no number. -/
inductive Binary (f : Format) where
  | finite (negative : Bool) (magnitude : Magnitude)
  | infinite (negative : Bool)
  | notNumber
  deriving DecidableEq, Repr

/-- Numbers of 32 bits. -/
abbrev Single := Binary .single

/-- Numbers of 64 bits. -/
abbrev Double := Binary .double

namespace Binary

/-- The number nearest to the magnitude `r ≥ 0`, with a sign of its own: zero has both. -/
def ofMagnitude (f : Format) (negative : Bool) (r : Rat) : Binary f :=
  match f.nearest? r with
  | some x => .finite negative x
  | none => .infinite negative

/-- The number nearest to an integer. -/
def ofInt (f : Format) (n : Int) : Binary f :=
  ofMagnitude f (n < 0) n.natAbs

/-- The number of format `g` nearest to a number of format `f`. -/
def convert {f : Format} (g : Format) : Binary f → Binary g
  | .finite negative x => ofMagnitude g negative x.toRat
  | .infinite negative => .infinite negative
  | .notNumber => .notNumber

/-- The value of a finite number. -/
def toRat? {f : Format} : Binary f → Option Rat
  | .finite negative x => some (if negative then -x.toRat else x.toRat)
  | _ => none

end Binary

instance : Inhabited Magnitude := ⟨⟨0, 0⟩⟩

/-- Zero. -/
instance {f : Format} : Inhabited (Binary f) := ⟨.finite false ⟨0, f.least⟩⟩

end HexWorld
