import HexWorld.Decimal.Layout

/-!
# Durations

Lengths of time in whole nanoseconds, and how messages write them: in the largest unit that is not
above the length, with as many decimals as are needed.

## Contents
- `Duration`, with `ofMillis` and `toMillis`.
- `Duration.text`.
-/

namespace HexWorld

/-- A length of time. -/
structure Duration where
  nanos : Nat
  deriving DecidableEq, Repr, Inhabited

namespace Duration

def ofMillis (ms : Nat) : Duration :=
  ⟨ms * 1000000⟩

/-- Whole milliseconds, cut. -/
def toMillis (d : Duration) : Nat :=
  d.nanos / 1000000

/-- `nanos / unit` with the fraction as decimals, of which `places` make a unit. -/
def inUnit (nanos unit places : Nat) : String :=
  let rest := Decimal.digitsOf (nanos % unit)
  let fraction := Decimal.stripZeros (List.replicate (places - rest.length) 0 ++ rest)
  toString (nanos / unit) ++
    if fraction.isEmpty then "" else String.ofList ('.' :: fraction.map digitChar)

/-- A length in its largest unit. -/
def text (d : Duration) : String :=
  if 1000000000 ≤ d.nanos then inUnit d.nanos 1000000000 9 ++ "s"
  else if 1000000 ≤ d.nanos then inUnit d.nanos 1000000 6 ++ "ms"
  else if 1000 ≤ d.nanos then inUnit d.nanos 1000 3 ++ "µs"
  else toString d.nanos ++ "ns"

end Duration

end HexWorld
