import HexWorld.Text.Integer
import HexWorld.Decimal.Layout

/-!
# Reading decimals

Two readers. `Double.ofDecimal` takes the number nearest to the decimal. `readSignificand` keeps as
many digits as fit into 64 bits and scales by a power of ten afterwards, which rounds more than
once: `Double.ofParts?` is that reader, and the texts of numbers in messages are defined by it.

## Contents
- `Double.ofDecimal`, `Double.ofText?`.
- `Significand`, `readSignificand`, `Double.ofParts?`.
-/

namespace HexWorld.Double

/-! ## To the nearest number -/

/-- The number nearest to `n * 10 ^ e`. Decimals beyond all numbers of the format are settled by
their count of digits, so that no power of ten grows with the exponent written. -/
def ofDecimal (negative : Bool) (n : Nat) (e : Int) : Double :=
  let count : Int := (Decimal.digitsOf n).length
  if n = 0 ∨ count + e < -400 then .ofMagnitude .double negative 0
  else if 400 < count + e then .infinite negative
  else .ofMagnitude .double negative (n * Decimal.tenPow e)

/-- The run of digits at the front, and the rest. -/
def digitRun (text : List Char) : List Nat × List Char :=
  ((text.takeWhile Char.isDigit).map fun c => c.toNat - '0'.toNat, text.dropWhile Char.isDigit)

/-- An exponent mark with its integer, at the end of a number. -/
def exponent? : List Char → Option Int
  | [] => some 0
  | mark :: rest =>
    if mark = 'e' ∨ mark = 'E' then
      let (sign, rest) : Int × List Char := match rest with
        | '+' :: rest => (1, rest)
        | '-' :: rest => (-1, rest)
        | rest => (1, rest)
      let (digits, rest) := digitRun rest
      if digits.isEmpty ∨ !rest.isEmpty then none else some (sign * Decimal.ofDigits digits)
    else none

/-- A decimal without its sign: digits with a point among, before or after them, and an exponent. -/
def decimal? (negative : Bool) (text : List Char) : Option Double :=
  let (whole, rest) := digitRun text
  let (fraction, rest) := match rest with
    | '.' :: rest => digitRun rest
    | rest => ([], rest)
  if whole.isEmpty ∧ fraction.isEmpty then none
  else (exponent? rest).map fun e =>
    ofDecimal negative (Decimal.ofDigits (whole ++ fraction)) (e - fraction.length)

/-- A signed decimal, or the name of infinity or of no number in either case. -/
def ofText? (text : List Char) : Option Double :=
  let (negative, rest) := match text with
    | '-' :: rest => (true, rest)
    | '+' :: rest => (false, rest)
    | rest => (false, rest)
  let name := String.ofList (rest.map Char.toLower)
  if name = "inf" ∨ name = "infinity" then some (.infinite negative)
  else if name = "nan" then some .notNumber
  else decimal? negative rest

/-! ## By a scaled significand -/

/-- Digits that fit into 64 bits, times a power of ten. -/
structure Significand where
  value : Nat
  exponent : Int
  deriving DecidableEq, Repr

/-- Takes digits while the value fits, and gives the digits that are left from the first that does
not fit. -/
def takeDigits : Nat → List Nat → Nat × List Nat
  | value, [] => (value, [])
  | value, d :: rest =>
    if value * 10 + d < UInt64.size then takeDigits (value * 10 + d) rest else (value, d :: rest)

/-- Digits before the point that do not fit raise the exponent. Those after it lower the exponent
when they fit and are dropped from the first that does not. -/
def readSignificand (whole fraction : List Nat) : Significand :=
  let (value, unread) := takeDigits 0 whole
  let (value', dropped) := takeDigits value fraction
  ⟨value', (unread.length : Int) - (fraction.length - dropped.length : Nat)⟩

/-- Divides by `10 ^ 308` until the rest of the exponent is a power of the table, which ends
there; a value that has become zero stays so. -/
def scaleDown : Nat → Magnitude → Nat → Option Magnitude
  | 0, _, _ => Format.double.nearest? 0
  | fuel + 1, x, e =>
    if e ≤ 308 then do
      let power ← Format.double.nearest? (Nat.pow 10 e : Nat)
      Format.double.nearest? (x.toRat / power.toRat)
    else if x.isZero then some x
    else do
      let power ← Format.double.nearest? (Nat.pow 10 308 : Nat)
      let x ← Format.double.nearest? (x.toRat / power.toRat)
      scaleDown fuel x (e - 308)

/-- Rounds the significand, then multiplies or divides by a rounded power of ten. A value beyond
the greatest number is refused; zero never is. -/
def scale? (s : Significand) : Option Magnitude := do
  let x ← Format.double.nearest? s.value
  if s.exponent < 0 then scaleDown 4 x (-s.exponent).toNat
  else if s.exponent ≤ 308 then do
    let power ← Format.double.nearest? (Nat.pow 10 s.exponent.toNat : Nat)
    Format.double.nearest? (x.toRat * power.toRat)
  else if x.isZero then some x
  else none

/-- The number of a decimal given by its parts. Exponents are words of 32 bits: a written exponent
beyond them makes zero, or is refused if it is positive and the significand is not zero, and the
sum of the two exponents saturates. -/
def ofParts? (negative : Bool) (whole fraction : List Nat) (exponent : Int) : Option Double :=
  let s := readSignificand whole fraction
  let bound : Int := 0x7FFFFFFF
  if bound < exponent.natAbs then
    if 0 < exponent ∧ s.value ≠ 0 then none else some (.ofMagnitude .double negative 0)
  else
    let e := max (-bound - 1) (min bound (s.exponent + exponent))
    (scale? { s with exponent := e }).map (.finite negative)

end HexWorld.Double
