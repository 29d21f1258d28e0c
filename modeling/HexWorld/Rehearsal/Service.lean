import HexWorld.Daemon.Lifecycle
import HexWorld.Rehearsal.Performance

/-!
# Rehearsing a daemon

A daemon with a rehearsed source, on the clock of the rehearsal. Whatever needs no clock is done
before anybody looks.

## Contents
- `Service`, with `start`, `settle`, `respond` and `waitFor`.
- `Service.interrupt`, `Service.finish`: the end.
-/

namespace HexWorld.Rehearsal

/-- A daemon in a rehearsal. -/
structure Service (σ : Type) where
  daemon : Daemon
  performance : Performance σ
  log : List LogLine
  /-- How the daemon has ended, if it has. -/
  outcome : Option (Except DaemonError Unit)

namespace Service

variable {σ : Type} [Source σ]

/-- The number of snapshots that the relay of a daemon keeps for each stream client. -/
def relayCapacity : Nat := 64

/-- Ends the daemon. A supervisor that still runs is asked to stop. -/
def stop (stop : Stop) (s : Service σ) : Service σ :=
  let (afterwards, performance) := match stop with
    | .supervisor _ => (none, s.performance)
    | .signal | .signalFailed _ => s.performance.shutdown
  { s with
    performance
    log := s.log ++ stop.announcement ++ [Daemon.endLine]
    outcome := some (stop.outcome (afterwards.join.getD (.ok ()))) }

/-- Notices that the supervisor has ended. -/
def watch (s : Service σ) : Service σ :=
  match s.outcome, s.performance.stopped with
  | none, (some (some outcome), performance) => { s with performance }.stop (.supervisor outcome)
  | _, _ => s

/-- Does what needs no clock. -/
def settle (s : Service σ) : Service σ :=
  if s.outcome.isSome then s else { s with performance := s.performance.settle }.watch

/-- A daemon that has just been started, with the address of its relay as the log shows it. Nothing
runs if the relay has no address. -/
def start (daemon : Daemon) (source : σ) (relay : Except DaemonError String) : Service σ :=
  let performance := (Performance.start daemon.settings source).attach relayCapacity
  match relay with
  | .error e => ⟨daemon, performance, daemon.startLines, some (.error e)⟩
  | .ok address =>
    settle ⟨daemon, performance, daemon.startLines ++ [Daemon.readyLine address], none⟩

/-- Lets something happen to the source. -/
def modifySource (f : σ → σ) (s : Service σ) : Service σ :=
  settle { s with performance := { s.performance with source := f s.performance.source } }

/-- Answers a request to the relay. Terrain may take a while, in which everything else goes on. -/
def respond (r : Request) (s : Service σ) : Response × Service σ :=
  let (response, performance) := s.performance.respond r
  (response, settle { s with performance })

/-- Lets time pass until something is over, or the daemon has ended. -/
def waitFor (isOver : Performance σ → Bool) (s : Service σ) : Service σ :=
  if s.outcome.isSome then s
  else
    let isDone (p : Performance σ) : Bool := isOver p || p.ending?.isSome
    { s with performance := s.performance.waitFor isDone Performance.longest }.watch

/-- Sends a signal, or has waiting for one fail; the answer is whether anybody waited. -/
def interrupt (cause : Stop) (s : Service σ) : Bool × Service σ :=
  if s.outcome.isSome then (false, s) else (true, s.stop cause)

/-- Waits for the end. -/
def finish (s : Service σ) : Service σ :=
  s.waitFor fun _ => false

end Service

end HexWorld.Rehearsal
