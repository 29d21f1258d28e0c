import HexWorld.Decimal.Shortest

/-!
# Writing decimals

## Contents
- `Layout`, which exponents are written by position; `Layout.single` and `Layout.double` are the
  ones in use.
- `Written`, the parts of a written number, and `Decimal.write`.
- `Binary.plainText`, a number inside a message.
-/

namespace HexWorld

/-- The parts of a written decimal: the digits before and after the point, and the exponent. -/
structure Written where
  whole : Nat
  fraction : List Nat
  exponent : Option Int
  deriving DecidableEq, Repr

/-- A way of writing decimals. Exponents from `least` to `greatest` of the first digit are written
by position, and others after the digits; `point` keeps a zero after the point of an integer. -/
structure Layout where
  least : Int
  greatest : Int
  point : Bool

namespace Layout

/-- Numbers of 32 bits are written by position from a millionth up to thirteen digits. -/
def single : Layout := ⟨-6, 12, true⟩

/-- Numbers of 64 bits are written by position from a hundred-thousandth up to sixteen digits. -/
def double : Layout := ⟨-5, 15, true⟩

end Layout

namespace Decimal

/-- By position. -/
def position (d : Decimal) (point : Bool) : Written :=
  let count := (d.exponent + 1).toNat
  let fraction :=
    if d.exponent < 0 then List.replicate (-d.exponent - 1).toNat 0 ++ d.digits
    else d.digits.drop count
  let whole := ofDigits (d.digits.take count ++ List.replicate (count - d.digits.length) 0)
  ⟨whole, if fraction.isEmpty && point then [0] else fraction, none⟩

/-- With the exponent after the digits. -/
def scientific (d : Decimal) : Written :=
  ⟨d.digits.headD 0, d.digits.tail, some d.exponent⟩

/-- The parts of a decimal in a layout. -/
def write (layout : Layout) (d : Decimal) : Written :=
  if layout.least ≤ d.exponent ∧ d.exponent ≤ layout.greatest then d.position layout.point
  else d.scientific

end Decimal

/-- The character of a digit. -/
def digitChar (d : Nat) : Char :=
  Nat.digitChar d

namespace Binary

/-- A number inside a message: all digits by position, and no point after an integer. -/
def plainText : Double → String
  | .finite negative x =>
    let written := (shortest .double x).position false
    let fraction := if written.fraction.isEmpty then [] else '.' :: written.fraction.map digitChar
    (if negative then "-" else "") ++ toString written.whole ++ String.ofList fraction
  | .infinite negative => if negative then "-inf" else "inf"
  | .notNumber => "NaN"

end Binary

end HexWorld
