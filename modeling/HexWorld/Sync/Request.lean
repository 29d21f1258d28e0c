import HexWorld.Failure
import HexWorld.Duration

/-!
# Bounded requests

Everything that is asked of a source has a deadline. A request that gets no answer until then has
failed, and the source counts as unavailable.

## Contents
- `Role`, what a connection is for.
- `Bounded`, how a request with a deadline ends.
- `Bounded.ofRequest`, `Bounded.ofConnect`: its result.
-/

namespace HexWorld

/-- What a connection is for: the description of the world and its subscription, or requests made
for readers. -/
inductive Role where
  | stream
  | requests
  deriving DecidableEq

/-- How a request with a deadline ends. -/
inductive Bounded (α : Type) where
  | answered (result : Except SourceError α)
  | elapsed

namespace Bounded

variable {α : Type}

/-- The result of a request. -/
def ofRequest (operation : String) (timeout : Duration) : Bounded α → Except SourceError α
  | answered result => result
  | elapsed => .error <| .unavailable
      s!"{operation} gave no answer within {timeout.toMillis}ms (deadline has elapsed)"

/-- The result of opening a connection. -/
def ofConnect : Bounded α → Except SourceError α
  | answered result => result
  | elapsed => .error (.unavailable "connect timed out (deadline has elapsed)")

end Bounded

end HexWorld
