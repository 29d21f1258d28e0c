import HexWorld.Failure
import HexWorld.Json.Record

/-!
# Failures of the relay

What a reader of the relay is told instead of an answer, each with its HTTP status.

## Contents
- `RelayError`, with `message`, `status` and `body`.
- `RelayError.ofQuery`, the failure that a failed query becomes.
-/

namespace HexWorld

open Json

/-- Why the relay cannot answer. -/
inductive RelayError where
  | notInitialized
  | notFound (what : String)
  | invalidRoomId (detail : String)
  | sourceFailure (detail : String)
  | serialization (detail : String)
  deriving DecidableEq

namespace RelayError

def message : RelayError → String
  | notInitialized => QueryError.notInitialized.message
  | notFound what => s!"not found: {what}"
  | invalidRoomId detail => s!"invalid room id: {detail}"
  | sourceFailure detail => s!"source error: {detail}"
  | serialization detail => s!"serialization error: {detail}"

def status : RelayError → Nat
  | notInitialized => 503
  | notFound _ => 404
  | invalidRoomId _ => 400
  | sourceFailure _ => 502
  | serialization _ => 500

/-- The body of the response. -/
def body (e : RelayError) : Value :=
  .ofFields [("error", .ofString e.message), ("status", .ofNat e.status)]

def ofQuery : QueryError → RelayError
  | .notInitialized => notInitialized
  | .roomNotFound room => notFound s!"room {room.text}"
  | .source cause => sourceFailure cause.message

end RelayError

end HexWorld
