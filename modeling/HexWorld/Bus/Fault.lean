import HexWorld.Failure

/-!
# Faults of the message bus

What the bus reports, and the failure of the source that each report means.

## Contents
- `ConnectFault`, `SourceError.ofConnect`.
- `RequestFault`, `SourceError.ofRequest`.
-/

namespace HexWorld

/-- Why a connection was not made. -/
inductive ConnectFault where
  | serverAddress
  | nameLookup
  | authentication
  | authorizationViolation
  | timedOut
  | tls
  | io
  | maxReconnects
  deriving DecidableEq

/-- Why a request got no reply. -/
inductive RequestFault where
  | timedOut
  | noResponders
  | invalidSubject
  | payloadTooLarge
  | other
  deriving DecidableEq

namespace SourceError

/-- A refusal and an unusable address are final; anything else may pass. -/
def ofConnect (detail : String) : ConnectFault → SourceError
  | .authentication | .authorizationViolation => permissionDenied detail
  | .serverAddress | .tls => config detail
  | .nameLookup | .timedOut | .io | .maxReconnects => unavailable detail

/-- No fault of a request is final. -/
def ofRequest (operation detail : String) : RequestFault → SourceError
  | .noResponders => unavailable s!"{operation}: no source is listening"
  | .timedOut => unavailable s!"{operation}: request timed out"
  | .invalidSubject | .payloadTooLarge | .other => unavailable s!"{operation}: {detail}"

end SourceError

end HexWorld
