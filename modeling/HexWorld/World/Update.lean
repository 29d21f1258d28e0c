import HexWorld.Failure
import HexWorld.RoomMap
import HexWorld.Message.Basic

/-!
# Checked messages

What a message of a source means once it is checked. A room may occur in several categories of one
tick, but only once in each; the room list names no room twice; the layout places listed rooms only,
each at most once; terrain is that of the room that was asked for.

## Contents
- `firstRepeated?`, the first item of a list that occurs earlier in it.
- `Update`, `Update.ofMessage`.
- `Bootstrap`, `Bootstrap.ofReplies`.
- `TerrainReply.tilesOf`.
-/

namespace HexWorld

/-- The first item that occurs among `seen` or earlier in the list. -/
def firstRepeatedAfter {α : Type} [DecidableEq α] (seen : List α) : List α → Option α
  | [] => none
  | a :: rest => if a ∈ seen then some a else firstRepeatedAfter (a :: seen) rest

/-- The first item that occurs earlier in the list. -/
def firstRepeated? {α : Type} [DecidableEq α] (items : List α) : Option α :=
  firstRepeatedAfter [] items

/-! ## Updates -/

/-- A checked tick: new collections for the rooms that it names. -/
structure Update where
  worldTime : Int64
  rooms : RoomMap RoomEntities
  diagnostics : Option Diagnostics
  deriving DecidableEq

namespace Update

/-- The room of a group. -/
def groupRoom {α : Type} (group : RoomGroup α) : RoomId :=
  ⟨group.room⟩

/-- Files the groups of one category under their rooms; a room named by no category yet starts
empty. -/
def file {α : Type} (category : String) (put : RoomEntities → List α → RoomEntities)
    (groups : List (RoomGroup α)) (rooms : RoomMap RoomEntities) :
    Except SourceError (RoomMap RoomEntities) :=
  match firstRepeated? (groups.map groupRoom) with
  | some room => .error (.protocol s!"room {room.text} listed twice in {category} of one tick")
  | none => .ok <| groups.foldl (fun rooms group =>
      let entities := (rooms.find? (groupRoom group)).getD .none
      rooms.insert (groupRoom group) (put entities group.members)) rooms

/-- Checks a tick. The clock of an update is signed, so the upper half of the source's range is
refused, and that is reported before any repeated room. -/
def ofMessage (m : EntitiesMessage) : Except SourceError Update := do
  if 0x8000000000000000 ≤ m.worldTime.toNat then
    throw <| .protocol
      s!"worldTime {m.worldTime.toNat} out of range: {Text.IntegerFault.tooLarge.message}"
  let rooms ← file "bots" (fun e bots => { e with bots }) m.bots .empty
  let rooms ← file "structures" (fun e structures => { e with structures }) m.structures rooms
  let rooms ← file "resources" (fun e resources => { e with resources }) m.resources rooms
  return ⟨.ofInt m.worldTime.toNat, rooms, m.diagnostics⟩

end Update

/-! ## Bootstraps -/

/-- The static description of a world. -/
structure Bootstrap where
  rooms : List RoomId
  layout : RoomMap RoomPosition
  deriving DecidableEq

namespace Bootstrap

/-- Places the rooms one by one. -/
def place (declared : List RoomId) : RoomMap RoomPosition → List RoomPlacement →
    Except SourceError (RoomMap RoomPosition)
  | layout, [] => .ok layout
  | layout, p :: rest =>
    let room : RoomId := ⟨p.room⟩
    if room ∉ declared then .error (.protocol s!"layout places undeclared room {room.text}")
    else if layout.contains room then .error (.protocol s!"layout places room {room.text} twice")
    else place declared (layout.insert room p.position) rest

/-- Checks the replies that describe a world, the room list first. -/
def ofReplies (list : RoomList) (layout : LayoutReply) : Except SourceError Bootstrap := do
  let rooms := list.roomIds.map RoomId.mk
  if let some room := firstRepeated? rooms then
    throw (.protocol s!"room {room.text} listed twice by ListRooms")
  let layout ← place rooms .empty layout.positions
  return ⟨rooms, layout⟩

end Bootstrap

/-! ## Terrain -/

/-- The tiles of a reply, which has to be about the room that was asked for. -/
def TerrainReply.tilesOf (room : RoomId) (reply : TerrainReply) :
    Except SourceError (List TerrainTile) :=
  let answered : RoomId := ⟨reply.room⟩
  if answered = room then .ok reply.tiles
  else .error (.protocol s!"asked for terrain of {room.text}, got {answered.text}")

end HexWorld
