import HexWorld.Text.Blank

/-!
# Decimal integers of a bounded range

Reading an optionally signed run of ASCII digits as an integer of a given range. A text that is
refused is refused for one of four causes, and when two apply the one met first from the left is
the one reported: `70000x` is too large for sixteen bits, `6553x` holds an invalid digit.

## Contents
- `IntegerFault`, the causes, and `IntegerFault.message`.
- `IntegerRange`, with the ranges of the word sizes in use.
- `readInteger`, the reader.
-/

namespace HexWorld.Text

/-- Why a text is not an integer of the range asked for. -/
inductive IntegerFault where
  | empty
  | invalidDigit
  | tooLarge
  | tooSmall
  deriving DecidableEq, Repr

/-- The wording of a fault. -/
def IntegerFault.message : IntegerFault → String
  | .empty => "cannot parse integer from empty string"
  | .invalidDigit => "invalid digit found in string"
  | .tooLarge => "number too large to fit in target type"
  | .tooSmall => "number too small to fit in target type"

/-- The integers from `lo` to `hi`, both ends included. -/
structure IntegerRange where
  lo : Int
  hi : Int
  deriving DecidableEq, Repr

namespace IntegerRange

def contains (range : IntegerRange) (n : Int) : Bool :=
  range.lo ≤ n && n ≤ range.hi

/-- Unsigned words of `bits` bits. -/
def unsigned (bits : Nat) : IntegerRange :=
  ⟨0, Nat.pow 2 bits - 1⟩

/-- Signed words of `bits` bits. -/
def signed (bits : Nat) : IntegerRange :=
  ⟨-(Nat.pow 2 (bits - 1)), Nat.pow 2 (bits - 1) - 1⟩

end IntegerRange

/-- The value of an ASCII digit. -/
def digitValue? (c : Char) : Option Nat :=
  if '0' ≤ c ∧ c ≤ '9' then some (c.toNat - '0'.toNat) else none

/-- Appends digits to the magnitude read so far. A magnitude beyond `limit` never comes back below
it, so the first digit that exceeds it ends the reading. -/
def readMagnitude (limit : Nat) (exceeded : IntegerFault) :
    Nat → List Char → Except IntegerFault Nat
  | acc, [] => .ok acc
  | acc, c :: rest =>
    match digitValue? c with
    | none => .error .invalidDigit
    | some d =>
      if acc * 10 + d ≤ limit then readMagnitude limit exceeded (acc * 10 + d) rest
      else .error exceeded

/-- Reads an integer of `range`. A `-` counts as a sign only where the range has negative numbers,
and a sign alone is an invalid digit. -/
def readInteger (range : IntegerRange) : List Char → Except IntegerFault Int
  | [] => .error .empty
  | ['+'] | ['-'] => .error .invalidDigit
  | '+' :: digits => (readMagnitude range.hi.toNat .tooLarge 0 digits).map Int.ofNat
  | '-' :: digits =>
    if range.lo < 0 then
      (readMagnitude range.lo.natAbs .tooSmall 0 digits).map fun n => -(Int.ofNat n)
    else .error .invalidDigit
  | digits => (readMagnitude range.hi.toNat .tooLarge 0 digits).map Int.ofNat

end HexWorld.Text
