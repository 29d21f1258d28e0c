import HexWorld.World.Snapshot

/-!
# The broadcast to stream clients

Every published snapshot goes to a receiver of each client. A receiver keeps the latest ones up to
the capacity of the broadcast; the client is told how many it missed before it gets the rest.

## Contents
- `Broadcast.capacity`, how many snapshots are kept.
- `Receiver`, with `push`, `receive?` and `skip`.
-/

namespace HexWorld

/-- The capacity for a requested number of snapshots: the next power of two. -/
def Broadcast.capacity (requested : Nat) : Nat :=
  Nat.nextPowerOfTwo requested

/-- What has been sent to one client and not yet taken by it. -/
structure Receiver where
  pending : List Snapshot
  missed : Nat
  deriving DecidableEq

/-- What a receiver yields. -/
inductive Received where
  | snapshot (s : Snapshot)
  | lagged (missed : Nat)
  deriving DecidableEq

namespace Receiver

def empty : Receiver := ⟨[], 0⟩

/-- Takes a snapshot in. In a full receiver it replaces the oldest one. -/
def push (capacity : Nat) (s : Snapshot) (r : Receiver) : Receiver :=
  if r.pending.length < capacity then { r with pending := r.pending ++ [s] }
  else ⟨r.pending.drop 1 ++ [s], r.missed + 1⟩

/-- The next thing to take: the report of a loss comes before what is left. -/
def receive? (r : Receiver) : Option (Received × Receiver) :=
  if r.missed = 0 then
    match r.pending with
    | [] => none
    | s :: rest => some (.snapshot s, ⟨rest, 0⟩)
  else some (.lagged r.missed, { r with missed := 0 })

/-- Passes over everything that was sent so far. -/
def skip (_ : Receiver) : Receiver := empty

end Receiver

end HexWorld
