import HexWorld.Config.Basic
import HexWorld.Failure
import HexWorld.Relay.Address

/-!
# Failures of the daemon

## Contents
- `DaemonError`, with `message`, `shape` and `report`.
-/

namespace HexWorld

/-- What ends the daemon badly. -/
inductive DaemonError where
  | config (cause : ConfigError)
  | observer (cause : ServerError)
  | supervisor (cause : ManagerError)
  /-- The daemon could not wait for a signal. -/
  | signal (detail : String)
  deriving DecidableEq

namespace DaemonError

def message : DaemonError → String
  | config cause => s!"config error: {cause.message}"
  | observer cause => s!"observer error: {cause.startupMessage}"
  | supervisor cause => s!"supervisor error: {cause.message}"
  | signal detail => s!"signal error: {detail}"

def shape : DaemonError → String
  | config cause => "Config \x7b source: " ++ cause.shape ++ " \x7d"
  | observer cause => "Observer \x7b source: " ++ cause.shape ++ " \x7d"
  | supervisor cause => "Supervisor \x7b source: " ++ cause.shape ++ " \x7d"
  | signal detail => "Signal \x7b message: " ++ Text.quoted detail ++ " \x7d"

/-- What the daemon leaves behind when it ends badly. -/
def report (e : DaemonError) : String :=
  s!"Error: {e.shape}"

end DaemonError

end HexWorld
