import HexWorld.Entity.Basic

/-!
# Messages of a source

What a source sends: replies to point requests, in an envelope that tells success from failure, and
one message of entities per tick.

## Contents
- `ErrorCode`, `Reply`.
- `RoomList`, `RoomPlacement`, `LayoutReply`, `TerrainReply`: bodies of replies.
- `RoomGroup`, `EntitiesMessage`: the entities of a tick, grouped by room and category.
-/

namespace HexWorld

/-- Why a source refused a request. -/
inductive ErrorCode where
  | notFound
  | permissionDenied
  | invalidArgument
  | unavailable
  | internal
  deriving DecidableEq, Inhabited

/-- The answer to a point request. -/
inductive Reply (α : Type) where
  | ok (body : α)
  | error (code : ErrorCode) (message : String)
  deriving DecidableEq

/-- The rooms of the world, in the order of the source. -/
structure RoomList where
  roomIds : List Axial
  deriving DecidableEq, Inhabited

/-- One room's place in the layout. -/
structure RoomPlacement where
  room : Axial
  position : RoomPosition
  deriving DecidableEq, Inhabited

/-- The places of the rooms that have one. -/
structure LayoutReply where
  positions : List RoomPlacement
  deriving DecidableEq, Inhabited

/-- The ground of a room. -/
structure TerrainReply where
  room : Axial
  tiles : List TerrainTile
  deriving DecidableEq, Inhabited

/-- The entities of one category in one room. -/
structure RoomGroup (α : Type) where
  room : Axial
  members : List α
  deriving DecidableEq

/-- The entities that a tick touched. -/
structure EntitiesMessage where
  worldTime : UInt64
  bots : List (RoomGroup Bot)
  structures : List (RoomGroup Structure)
  resources : List (RoomGroup Resource)
  diagnostics : Option Diagnostics
  deriving DecidableEq, Inhabited

end HexWorld
