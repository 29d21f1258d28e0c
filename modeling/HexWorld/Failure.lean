import HexWorld.Text.Quoted
import HexWorld.Room

/-!
# Failures

What can go wrong between a source and a reader, as causes. Each cause has one wording, in
`message`; `shape` names the cause with its parts, for reports about the program itself.

## Contents
- `SourceError`, with `isRetryable`: failures talking to the source.
- `QueryError`: failures told to readers.
- `FatalError`, `ManagerError`: what ends the supervision of a source.
-/

namespace HexWorld

/-- Failures talking to a source. -/
inductive SourceError where
  | unavailable (detail : String)
  | protocol (detail : String)
  | roomNotFound (room : RoomId)
  | permissionDenied (detail : String)
  | config (detail : String)
  | streamEnded
  deriving DecidableEq

namespace SourceError

def message : SourceError → String
  | unavailable detail => s!"source unavailable: {detail}"
  | protocol detail => s!"source protocol error: {detail}"
  | roomNotFound room => s!"room {room.text} not found"
  | permissionDenied detail => s!"permission denied by source: {detail}"
  | config detail => s!"invalid source configuration: {detail}"
  | streamEnded => "entity stream ended"

/-- A refusal or an unusable setting will not go away by itself; anything else may. -/
def isRetryable : SourceError → Bool
  | permissionDenied _ | config _ => false
  | _ => true

def shape : SourceError → String
  | unavailable detail => s!"Unavailable({Text.quoted detail})"
  | protocol detail => s!"Protocol({Text.quoted detail})"
  | roomNotFound room =>
    "RoomNotFound(RoomId(Axial \x7b q: " ++ toString room.axial.q.toInt ++ ", r: " ++
      toString room.axial.r.toInt ++ " \x7d))"
  | permissionDenied detail => s!"PermissionDenied({Text.quoted detail})"
  | config detail => s!"Config({Text.quoted detail})"
  | streamEnded => "StreamEnded"

end SourceError

/-- Failures told to readers. -/
inductive QueryError where
  | notInitialized
  | roomNotFound (room : RoomId)
  | source (cause : SourceError)
  deriving DecidableEq

namespace QueryError

def message : QueryError → String
  | notInitialized => "world state not initialized yet"
  | roomNotFound room => s!"room {room.text} not found"
  | source cause => s!"source error: {cause.message}"

/-- A room missing at the source is missing for the reader; other failures are the source's. -/
def ofSource : SourceError → QueryError
  | .roomNotFound room => roomNotFound room
  | other => source other

end QueryError

/-- What ends the supervision of a source for good. -/
inductive FatalError where
  | nonRetryable (cause : SourceError)
  | retriesExhausted (attempts : UInt32) (last : SourceError)
  deriving DecidableEq

namespace FatalError

def message : FatalError → String
  | nonRetryable cause => s!"non-retryable source failure: {cause.message}"
  | retriesExhausted attempts last =>
    s!"gave up after {attempts.toNat} consecutive failures; last: {last.message}"

def shape : FatalError → String
  | nonRetryable cause => "NonRetryable \x7b source: " ++ cause.shape ++ " \x7d"
  | retriesExhausted attempts last =>
    "RetriesExhausted \x7b attempts: " ++ toString attempts.toNat ++ ", last: " ++ last.shape ++
      " \x7d"

end FatalError

/-- What the owner of a supervisor is told when it ends badly. -/
inductive ManagerError where
  | fatal (cause : FatalError)
  | task (detail : String)
  deriving DecidableEq

namespace ManagerError

def message : ManagerError → String
  | fatal cause => s!"supervisor stopped: {cause.message}"
  | task detail => s!"supervisor task failed: {detail}"

def shape : ManagerError → String
  | fatal cause => "Fatal \x7b source: " ++ cause.shape ++ " \x7d"
  | task detail => "Task \x7b message: " ++ Text.quoted detail ++ " \x7d"

end ManagerError

end HexWorld
