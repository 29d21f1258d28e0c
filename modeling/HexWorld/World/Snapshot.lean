import HexWorld.World.Update

/-!
# Snapshots

The world as of one tick. A snapshot never changes; an accepted update makes the next one, in which
the rooms it names have new collections and all others keep theirs.

## Contents
- `Topology`, `Snapshot`, `Snapshot.initial`.
- `ApplyError`, `Snapshot.apply`: the next snapshot.
- `Snapshot.roomObjects`, `Snapshot.latestObjects`: one room of a snapshot.
-/

namespace HexWorld

/-- The static shape of the world, fixed for a session. -/
structure Topology where
  rooms : List RoomId
  layout : RoomMap RoomPosition
  deriving DecidableEq

/-- Whether the source declared a room. -/
def Topology.contains (t : Topology) (room : RoomId) : Bool :=
  t.rooms.contains room

/-- The world as of one tick. There are no entities until the first update. -/
structure Snapshot where
  worldTime : Int64
  session : UInt64
  entities : Option (RoomMap RoomEntities)
  topology : Topology
  diagnostics : Option Diagnostics
  deriving DecidableEq

/-- Why an update does not follow a snapshot. -/
inductive ApplyError where
  | stale (worldTime current : Int64)
  | unknownRoom (room : RoomId)
  deriving DecidableEq

def ApplyError.message : ApplyError → String
  | .stale worldTime current =>
    s!"stale update: worldTime {worldTime.toInt} is not after {current.toInt}"
  | .unknownRoom room => s!"update references undeclared room {room.text}"

namespace Snapshot

/-- The snapshot of a world that has just been described. Its time lies before every tick. -/
def initial (b : Bootstrap) : Snapshot where
  worldTime := -1
  session := 0
  entities := none
  topology := ⟨b.rooms, b.layout⟩
  diagnostics := none

def isInitialized (s : Snapshot) : Bool :=
  s.entities.isSome

/-- The entities recorded for a room. -/
def room? (s : Snapshot) (room : RoomId) : Option RoomEntities :=
  s.entities.bind (·.find? room)

/-- The snapshot after an update. Lateness is judged before the rooms are, so a late update never
ends a session. -/
def apply (previous : Snapshot) (update : Update) : Except ApplyError Snapshot :=
  if update.worldTime ≤ previous.worldTime then
    .error (.stale update.worldTime previous.worldTime)
  else
    match update.rooms.keys.find? fun room => !previous.topology.contains room with
    | some room => .error (.unknownRoom room)
    | none => .ok {
        previous with
        worldTime := update.worldTime
        entities := some <| update.rooms.entries.foldl (fun m e => m.insert e.1 e.2)
          (previous.entities.getD .empty)
        diagnostics := update.diagnostics }

/-- One room. A room of which nothing is recorded is empty, whether declared or not. -/
def roomObjects (s : Snapshot) (room : RoomId) : Except QueryError RoomObjects :=
  match s.entities with
  | none => .error .notInitialized
  | some entities => .ok ⟨s.worldTime, room, (entities.find? room).getD .none⟩

/-- One room of the latest snapshot, if one has been published. -/
def latestObjects (latest : Option Snapshot) (room : RoomId) : Except QueryError RoomObjects :=
  match latest with
  | none => .error .notInitialized
  | some s => s.roomObjects room

end Snapshot

end HexWorld
