import HexWorld.Sync.Registry
import HexWorld.World.Snapshot

/-!
# Scripted subscribers

Subscribers that follow a script when they are called: they fail or panic, register and remove
others, or start a notification inside the one that called them. Everything is noted in a log.

## Contents
- `Act`, `CallbackScript`: what a subscriber does.
- `Stage`, the registry with the scripts' memory; `Stage.register`, `Stage.deregister`,
  `Stage.notify`.
-/

namespace HexWorld.Rehearsal

mutual
/-- One act of a subscriber. -/
inductive Act where
  | fail
  | panic
  | remove (handle : Nat)
  | add (script : CallbackScript)
  | notify

/-- The acts of a subscriber, each on every call or on one call only, counted from one. -/
inductive CallbackScript where
  | mk (name : String) (acts : List (Option Nat × Act))
end

namespace CallbackScript

def name : CallbackScript → String
  | mk name _ => name

def acts : CallbackScript → List (Option Nat × Act)
  | mk _ acts => acts

end CallbackScript

/-- A registry of scripted subscribers. Subscribers are told apart by their place in `calls`, which
counts the calls of each; handles are kept in order of creation, across registries. -/
structure Stage where
  registry : Registry (Nat × CallbackScript)
  calls : List Nat
  handles : List UInt64
  log : List String

namespace Stage

def empty : Stage := ⟨.empty, [], [], []⟩

/-- Notes a line. -/
def note (line : String) (s : Stage) : Stage :=
  { s with log := s.log ++ [line] }

/-- Registers a subscriber that has not been called yet. -/
def register (script : CallbackScript) (s : Stage) : UInt64 × Stage :=
  let (id, registry) := s.registry.register (s.calls.length, script)
  (id, { s with registry, calls := s.calls ++ [0], handles := s.handles ++ [id] })

/-- Removes the subscriber of a handle; a handle that was never given removes nobody. -/
def deregister (handle : Nat) (s : Stage) : Bool × Stage :=
  match s.handles[handle]? with
  | some id =>
    let (found, registry) := s.registry.deregister id
    (found, { s with registry })
  | none => (false, s)

/-- Does the acts of a call one after the other. A failure or panic is the last. -/
def perform (nested : Stage → Stage × Report) (name : String) (call : Nat) :
    List (Option Nat × Act) → Stage → Stage × Outcome
  | [], s => (s, .handled)
  | (on, act) :: rest, s =>
    if on.any (· != call) then perform nested name call rest s
    else
      match act with
      | .fail => (s, .failed)
      | .panic => (s, .panicked)
      | .remove handle =>
        let (found, s) := s.deregister handle
        let id := Registry.idText (s.handles[handle]?.getD 0)
        perform nested name call rest (s.note s!"{name} removed {id}: {found}")
      | .add script =>
        let (id, s) := s.register script
        perform nested name call rest (s.note s!"{name} added {Registry.idText id}")
      | .notify =>
        let (s, report) := nested s
        perform nested name call rest
          (s.note s!"{name} notified {report.delivered.toNat}/{report.failed.toNat}")

/-- A notification about a world time. Subscribers may notify again, with the time before all
ticks, at most `depth` deep. -/
def notify : Nat → Int → Stage → Stage × Report
  | 0, _, s => (s, .none)
  | depth + 1, time, s =>
    s.registry.notify (fun e s =>
      let (index, script) := e.subscriber
      let call := s.calls[index]?.getD 0 + 1
      let s := { s with calls := s.calls.set index call }
      perform (notify depth (-1)) script.name call script.acts (s.note s!"{script.name}@{time}")) s

/-- The registry is replaced by a new one; handles and calls are remembered. -/
def refresh (s : Stage) : Stage :=
  { s with registry := .empty }

end Stage

end HexWorld.Rehearsal
