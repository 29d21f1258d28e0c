import HexWorld.Sync.Phase
import HexWorld.Sync.Registry
import HexWorld.World.Snapshot

/-!
# What supervision shares with readers

The latest snapshot, the subscribers, the phase and the running totals. Readers only read;
subscribers may change the registry, and what they remember, when they are called.

## Contents
- `Hub`, with `current`, `objects` and `shape`.
- `Subscription`, the behaviour of subscribers.
- `Hub.store`, `Hub.notify`: a new snapshot.
-/

namespace HexWorld

/-- What supervision shares: subscribers of type `β` remember something of type `τ`. -/
structure Hub (β τ : Type) where
  current : Option Snapshot
  registry : Registry β
  phase : Phase
  counters : Counters
  memory : τ

/-- What the registry and the memory become when a subscriber is called with a snapshot, and how the
call ends. The first argument is what the store holds at that moment. -/
abbrev Subscription (β τ : Type) :=
  Option Snapshot → Snapshot → Entry β → Registry β × τ → (Registry β × τ) × Outcome

namespace Hub

variable {β τ : Type}

/-- Nothing has been published and nothing has run. -/
def start (memory : τ) : Hub β τ :=
  ⟨none, .empty, .idle, .zero, memory⟩

/-- One room of the latest snapshot. -/
def objects (h : Hub β τ) (room : RoomId) : Except QueryError RoomObjects :=
  Snapshot.latestObjects h.current room

/-- Replaces the latest snapshot. -/
def store (s : Snapshot) (h : Hub β τ) : Hub β τ :=
  { h with current := some s }

/-- One notification; the failures are counted. -/
def notify (subscription : Subscription β τ) (s : Snapshot) (h : Hub β τ) : Hub β τ × Report :=
  let ((registry, memory), report) :=
    h.registry.notify (subscription h.current s) (h.registry, h.memory)
  let callbackFailures := h.counters.callbackFailures + report.failed
  ({ h with registry, memory, counters := { h.counters with callbackFailures } }, report)

/-- The registry in reports about the program itself. -/
def registryShape (h : Hub β τ) : String :=
  "SubscriberRegistry \x7b subscribers: " ++ toString h.registry.size ++ ", .. \x7d"

def shape (h : Hub β τ) : String :=
  let time := match h.current with
    | some s => s!"Some({s.worldTime.toInt})"
    | none => "None"
  "WorldState \x7b phase: " ++ h.phase.shape ++ ", world_time: " ++ time ++ ", registry: " ++
    h.registryShape ++ ", .. \x7d"

/-- A relay of this number and its stream clients in reports about the program itself. -/
def relayShape (h : Hub β τ) (relay : UInt64) (clients : Nat) : String :=
  "AppState \x7b world: " ++ h.shape ++ ", relay: SubscriptionId(" ++ toString relay.toNat ++
    "), clients: " ++ toString clients ++ " \x7d"

end Hub

end HexWorld
