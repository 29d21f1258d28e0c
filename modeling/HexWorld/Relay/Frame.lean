import HexWorld.Entity.Json

/-!
# Frames of a stream client

## Contents
- `Frame`, a message to a client, tagged by its kind; `Frame.toJson`.
-/

namespace HexWorld

open Json

/-- A message to a stream client. -/
inductive Frame where
  | terrain (room : RoomId) (tiles : List TerrainTile)
  | entities (view : RoomObjects)
  | error (message : String)
  deriving DecidableEq

/-- The members of a view stand beside the tag. -/
def Frame.toJson : Frame → Value
  | .terrain room tiles =>
    .ofFields [("ty", .ofString "terrain"), ("roomId", room.toJson),
      ("tiles", .array (tiles.map TerrainTile.toJson))]
  | .entities view => .ofFields (("ty", .ofString "entities") :: view.fields)
  | .error message => .ofFields [("ty", .ofString "error"), ("error", .ofString message)]

end HexWorld
