import HexWorld.Entity.Json
import HexWorld.World.Snapshot

/-!
# Worlds written out

The JSON forms in which descriptions of the world, updates and snapshots are shown in full. They are
written only. What belongs to rooms is an object with a member for each room, in the order of rooms.

## Contents
- `RoomMap.toJson`.
- `Bootstrap.toJson`, `Update.toJson`, `Snapshot.toJson`.
-/

namespace HexWorld

open Json

/-- An object with a member for each room. -/
def RoomMap.toJson {α : Type} (f : α → Value) (m : RoomMap α) : Value :=
  .ofFields (m.entries.map fun e => (e.1.text, f e.2))

def Bootstrap.toJson (b : Bootstrap) : Value :=
  .ofFields [
    ("rooms", .array (b.rooms.map RoomId.toJson)),
    ("layout", b.layout.toJson RoomPosition.toJson)]

def Update.toJson (u : Update) : Value :=
  .ofFields [
    ("worldTime", .ofInt64 u.worldTime), ("rooms", u.rooms.toJson RoomEntities.toJson),
    ("diagnostics", .ofOption Diagnostics.toJson u.diagnostics)]

def Snapshot.toJson (s : Snapshot) : Value :=
  .ofFields [
    ("worldTime", .ofInt64 s.worldTime), ("session", .ofUInt64 s.session),
    ("initialized", .bool s.isInitialized),
    ("rooms", .array (s.topology.rooms.map RoomId.toJson)),
    ("layout", s.topology.layout.toJson RoomPosition.toJson),
    ("entities", .ofOption (RoomMap.toJson RoomEntities.toJson) s.entities),
    ("diagnostics", .ofOption Diagnostics.toJson s.diagnostics)]

end HexWorld
