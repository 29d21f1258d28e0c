import HexWorld.Duration
import HexWorld.Decimal.Binary

/-!
# Waiting between retries

The wait before a retry doubles with each attempt up to a bound, and a random fraction of it is cut
off. The fraction is drawn from 52 random bits and all arithmetic on it is that of 64-bit binary
numbers, rounded after each operation.

## Contents
- `Backoff`, with `ceiling`, `delay` and `allowsRetry`.
- `Jitter.draw`, the fraction that is cut off.
-/

namespace HexWorld

/-- How a failed source is tried again. -/
structure Backoff where
  base : Duration
  bound : Duration
  maxRetries : Option UInt32
  jitter : Double
  deriving DecidableEq

/-- The 64-bit number nearest to a nonnegative rational in their range. -/
def roundDouble (r : Rat) : Rat :=
  ((Format.double.nearest? r).getD default).toRat

namespace Jitter

/-- A fraction below `limit`, with the words that are left. A word whose fraction is rounded up to
the limit is passed over; without words nothing is cut. -/
def draw (limit : Rat) : List UInt64 → Rat × List UInt64
  | [] => (0, [])
  | word :: rest =>
    let cut := roundDouble ((word.toNat / 4096 : Nat) * Magnitude.twoPow (-52) * limit)
    if cut < limit then (cut, rest) else draw limit rest

end Jitter

namespace Duration

/-- The length in seconds, as a 64-bit number. -/
def seconds (d : Duration) : Rat :=
  roundDouble (roundDouble (d.nanos / 1000000000 : Nat) +
    roundDouble (roundDouble (d.nanos % 1000000000 : Nat) / (1000000000 : Nat)))

/-- A length times a factor, to the nearest nanosecond. -/
def scale (d : Duration) (factor : Rat) : Duration :=
  ⟨(roundEven (roundDouble (factor * d.seconds) * (1000000000 : Nat))).toNat⟩

/-- Lengths are counted in seconds of 64 bits and the nanoseconds beyond. -/
def limit : Nat := UInt64.size * 1000000000

end Duration

namespace Backoff

/-- The wait without a cut. A factor of more than 32 bits, or a length beyond all durations, counts
as the bound. -/
def ceiling (p : Backoff) (attempt : UInt32) : Duration :=
  let wait := p.base.nanos * Nat.pow 2 attempt.toNat
  if attempt < 32 ∧ wait < Duration.limit then ⟨min wait p.bound.nanos⟩ else p.bound

/-- The greatest part of a wait that may be cut: the jitter brought into `[0, 1]`, and nothing if it
is not finite. -/
def cutLimit (p : Backoff) : Rat :=
  match p.jitter.toRat? with
  | some r => if r < 0 then 0 else if 1 < r then 1 else r
  | none => 0

/-- The wait before a retry, with the words that are left. -/
def delay (p : Backoff) (attempt : UInt32) (words : List UInt64) : Duration × List UInt64 :=
  let ceiling := p.ceiling attempt
  if p.cutLimit = 0 then (ceiling, words)
  else
    let (cut, rest) := Jitter.draw p.cutLimit words
    (ceiling.scale (roundDouble (1 - cut)), rest)

/-- Whether a retry follows so many failures in a row. -/
def allowsRetry (p : Backoff) (failures : UInt32) : Bool :=
  match p.maxRetries with
  | none => true
  | some limit => failures ≤ limit

end Backoff

end HexWorld
