import HexWorld.Room
import HexWorld.Text.Uuid

/-!
# What stands in a room

Entities, terrain tiles, places in the layout and health figures, as a source reports them. They are
carried as they come; nothing here interprets them.

## Contents
- `WorldPosition`, `Bot`, `Structure`, `Resource`, `RoomEntities`.
- `TerrainKind`, `TerrainTile`.
- `RoomPosition`, `Diagnostics`.
-/

namespace HexWorld

/-- A tile and the room it is in. -/
structure WorldPosition where
  room : Axial
  pos : Axial
  deriving DecidableEq, Inhabited

/-- A scripted unit. -/
structure Bot where
  id : UInt64
  position : WorldPosition
  ownerId : Option Uuid
  scriptId : Option Uuid
  carry : UInt32
  carryMax : UInt32
  hp : UInt32
  hpMax : UInt32
  deriving DecidableEq, Inhabited

/-- Kinds of structures; those not known by name are `unknown`. -/
inductive StructureKind where
  | spawn
  | unknown
  deriving DecidableEq, Inhabited

/-- A building. -/
structure Structure where
  id : UInt64
  position : WorldPosition
  kind : StructureKind
  ownerId : Option Uuid
  hp : UInt32
  hpMax : UInt32
  energy : UInt32
  energyMax : UInt32
  deriving DecidableEq, Inhabited

/-- Kinds of resources; those not known by name are `unknown`. -/
inductive ResourceKind where
  | energy
  | unknown
  deriving DecidableEq, Inhabited

/-- Something to harvest. -/
structure Resource where
  id : UInt64
  position : WorldPosition
  kind : ResourceKind
  amount : UInt32
  amountMax : UInt32
  deriving DecidableEq, Inhabited

/-- The three collections of a room. -/
structure RoomEntities where
  bots : List Bot
  structures : List Structure
  resources : List Resource
  deriving DecidableEq

/-- Nothing in a room. -/
def RoomEntities.none : RoomEntities := ⟨[], [], []⟩

instance : Inhabited RoomEntities := ⟨.none⟩

/-- The ground of a tile. -/
inductive TerrainKind where
  | empty
  | plain
  | wall
  | bridge
  deriving DecidableEq, Inhabited

/-- One tile of a room's ground. -/
structure TerrainTile where
  position : Axial
  terrain : TerrainKind
  deriving DecidableEq, Inhabited

/-- Where a room is drawn. -/
structure RoomPosition where
  x : Single
  y : Single
  deriving DecidableEq, Inhabited

/-- Health figures of a tick. -/
structure Diagnostics where
  tickLatencyMs : Double
  scriptsRun : UInt64
  scriptsFailed : UInt64
  intents : UInt64
  entities : UInt64
  deriving DecidableEq, Inhabited

/-- One room's entities at a world time. -/
structure RoomObjects where
  time : Int64
  room : RoomId
  payload : RoomEntities
  deriving DecidableEq, Inhabited

end HexWorld
