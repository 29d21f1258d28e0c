import HexWorld.Config.Document
import HexWorld.Daemon.Failure
import HexWorld.Daemon.LogFilter
import HexWorld.Sync.Supervisor

/-!
# The life of a daemon

A daemon reads its configuration, starts a supervisor, takes the address of its relay, and then
waits for whichever comes first: a signal or the end of the supervisor. A signal has the supervisor
stop, and its end still counts: a failure is never passed over, whatever came first.

## Contents
- `Environment`, `Daemon`, what a daemon is started with.
- `Daemon.load`, with `settings` and `relayAddress`: up to the moment when the relay is ready.
- `startLines`, `readyLine` and `endLine`: what is logged on the way, and `render`, how.
- `Stop`, with `announcement` and `outcome`: from there to the end.
-/

namespace HexWorld

/-- The variables that a daemon looks at. -/
structure Environment where
  overrides : Overrides
  logFilter : Option String

/-- A daemon. -/
structure Daemon where
  config : Config
  /-- There was a file. -/
  fromFile : Bool
  filter : LogFilter

namespace Daemon

/-- The file of the configuration. -/
def configPath : String := "hexwatch-config.yaml"

/-- A daemon with the configuration of a file. Without a file the configuration is the default, of
which the environment may still replace parts. -/
def load (file : Option (List UInt8)) (env : Environment) : Except DaemonError Daemon :=
  let config := match file with
    | some bytes => Config.ofBytes bytes env.overrides
    | none => Config.parse [] env.overrides
  match config with
  | .ok config => .ok ⟨config, file.isSome, .ofSettings env.logFilter config.logging.level⟩
  | .error e => .error (.config e)

/-- The settings of its supervisor. -/
def settings (d : Daemon) : SyncSettings :=
  ⟨d.config.backoffPolicy, d.config.requestTimeout⟩

/-- The address of its relay, where others are taken. -/
def relayAddress (taken : List SocketAddress) (d : Daemon) : Except DaemonError SocketAddress :=
  (bindAddress taken d.config.observer.host d.config.observer.port).mapError .observer

/-! ## Lines -/

/-- The lines that pass its filter. -/
def admitted (d : Daemon) (lines : List LogLine) : List LogLine :=
  lines.filter fun l => d.filter.admits LogLine.target l.level

/-- A line in the configured form. -/
def render (d : Daemon) (l : LogLine) : String :=
  match d.config.logging.format with
  | .pretty => l.text
  | .json => l.toJson.render

/-- The number of retries as a line shows it. -/
def retriesText : Option UInt32 → String
  | none => "None"
  | some n => s!"Some({n.toNat})"

/-- What is logged first. -/
def startLines (d : Daemon) : List LogLine :=
  let c := d.config
  [ ⟨.info, "hexwatch-daemon starting", []⟩,
    if d.fromFile then ⟨.info, "Configuration loaded", [("path", .quoted configPath)]⟩
    else ⟨.info, "Config file not found, using defaults", []⟩,
    ⟨.info, "Sync settings", [
      ("source_url", .plain c.source.url),
      ("request_timeout_ms", .number c.source.requestTimeoutMs.toNat),
      ("backoff_base_ms", .number c.backoff.baseMs.toNat),
      ("backoff_max_ms", .number c.backoff.maxMs.toNat),
      ("max_retries", .plain (retriesText c.backoff.maxRetries))]⟩ ]

/-- What is logged when the relay listens. -/
def readyLine (address : String) : LogLine :=
  ⟨.info, "Observer relay ready", [("addr", .plain address)]⟩

/-- What is logged last. -/
def endLine : LogLine :=
  ⟨.info, "hexwatch-daemon stopped", []⟩

end Daemon

/-! ## The end -/

/-- Why a daemon stops. -/
inductive Stop where
  | signal
  /-- Waiting for a signal failed. -/
  | signalFailed (detail : String)
  /-- The supervisor has ended. -/
  | supervisor (outcome : Except ManagerError Unit)

namespace Stop

/-- What is logged about it. -/
def announcement : Stop → List LogLine
  | signal => [⟨.info, "Shutdown requested", []⟩]
  | signalFailed detail =>
    [⟨.warn, "Failed to listen for Ctrl-C, shutting down", [("error", .plain detail)]⟩]
  | supervisor (.error e) => [⟨.error, "Supervisor stopped", [("error", .plain e.message)]⟩]
  | supervisor (.ok ()) => []

/-- How the daemon ends. The argument is the end of the supervisor as it is reported after it was
asked to stop, which it is unless it has ended by itself. -/
def outcome (afterwards : Except ManagerError Unit) : Stop → Except DaemonError Unit
  | signal => afterwards.mapError .supervisor
  | signalFailed detail => .error (.signal detail)
  | supervisor outcome => outcome.mapError .supervisor

end Stop

end HexWorld
