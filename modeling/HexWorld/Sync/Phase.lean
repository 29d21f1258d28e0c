import HexWorld.Duration
import HexWorld.Json.Record

/-!
# Phases and counters of supervision

## Contents
- `Phase`, with its JSON form and its shape in reports.
- `Counters`, the running totals.
-/

namespace HexWorld

open Json

/-- Where the supervision of a source stands. -/
inductive Phase where
  | idle
  | bootstrapping (attempt : UInt32)
  | streaming (session : UInt64)
  | backoff (attempt : UInt32) (delay : Duration)
  | stopped
  deriving DecidableEq, Inhabited

namespace Phase

/-- The name of the phase. -/
def tag : Phase → String
  | idle => "idle"
  | bootstrapping _ => "bootstrapping"
  | streaming _ => "streaming"
  | backoff _ _ => "backoff"
  | stopped => "stopped"

/-- The data of the phase; a delay is given in milliseconds, at most those of 64 bits. -/
def details : Phase → List (String × Value)
  | idle | stopped => []
  | bootstrapping attempt => [("attempt", .ofUInt32 attempt)]
  | streaming session => [("session", .ofUInt64 session)]
  | backoff attempt delay =>
    [("attempt", .ofUInt32 attempt), ("delayMs", .ofNat (min delay.toMillis (UInt64.size - 1)))]

def toJson (p : Phase) : Value :=
  .ofFields (("phase", .ofString p.tag) :: p.details)

def shape : Phase → String
  | idle => "Idle"
  | bootstrapping attempt => "Bootstrapping \x7b attempt: " ++ toString attempt.toNat ++ " \x7d"
  | streaming session => "Streaming \x7b session: " ++ toString session.toNat ++ " \x7d"
  | backoff attempt delay =>
    "Backoff \x7b attempt: " ++ toString attempt.toNat ++ ", delay: " ++ delay.text ++ " \x7d"
  | stopped => "Stopped"

end Phase

/-- Running totals of supervision. -/
structure Counters where
  sessionsStarted : UInt64
  snapshotsPublished : UInt64
  staleUpdates : UInt64
  callbackFailures : UInt64
  retryableFailures : UInt64
  deriving DecidableEq, Inhabited

namespace Counters

def zero : Counters := ⟨0, 0, 0, 0, 0⟩

def toJson (c : Counters) : Value :=
  .ofFields [
    ("sessionsStarted", .ofUInt64 c.sessionsStarted),
    ("snapshotsPublished", .ofUInt64 c.snapshotsPublished),
    ("staleUpdates", .ofUInt64 c.staleUpdates),
    ("callbackFailures", .ofUInt64 c.callbackFailures),
    ("retryableFailures", .ofUInt64 c.retryableFailures)]

end Counters

end HexWorld
