import HexWorld.Daemon.Lifecycle

/-!
# Command line

Starts a daemon as far as that needs no bus: the configuration is read and checked, what a daemon
logs at its start is logged, and the address of the relay is worked out.
-/

namespace HexWorld

/-- The bytes of a file, or nothing if it does not exist. -/
def readIfPresent (path : String) : IO (Option (List UInt8)) := do
  try
    return some (← IO.FS.readBinFile path).toList
  catch e =>
    match e with
    | .noFileOrDirectory .. => return none
    | e => throw e

/-- The variables that a daemon looks at. -/
def readEnvironment : IO Environment := do
  return ⟨⟨← IO.getEnv "SOURCE_URL", ← IO.getEnv "OBSERVER_PORT", ← IO.getEnv "LOG_FORMAT"⟩,
    ← IO.getEnv "RUST_LOG"⟩

/-- Says how a daemon has ended badly. -/
def reportFailure (e : DaemonError) : IO UInt32 := do
  IO.eprintln e.report
  return 1

/-- Starts a daemon; the result is the exit code. -/
def runDaemon : IO UInt32 := do
  match Daemon.load (← readIfPresent Daemon.configPath) (← readEnvironment) with
  | .error e => reportFailure e
  | .ok daemon =>
    for line in daemon.admitted daemon.startLines do
      IO.println (daemon.render line)
    match daemon.relayAddress [] with
    | .error e => reportFailure e
    | .ok _ => return 0

end HexWorld

def main : IO UInt32 :=
  HexWorld.runDaemon
