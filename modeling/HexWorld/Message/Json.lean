import HexWorld.Entity.Json
import HexWorld.Message.Basic

/-!
# Messages in JSON

A reply is an object with a `status` among its members, or an array that begins with the status.
Since the status may come last, the whole reply is read before its body is: every part of it has to
mean something, skipped fields included.

## Contents
- `toJson` and `ofJson?` for messages and their parts.
- `Reply.ofJson?`, reading an envelope.
-/

namespace HexWorld

open Json

/-! ## Envelopes -/

namespace ErrorCode

def all : List ErrorCode := [notFound, permissionDenied, invalidArgument, unavailable, internal]

/-- The code in a reply. -/
def name : ErrorCode → String
  | notFound => "not_found"
  | permissionDenied => "permission_denied"
  | invalidArgument => "invalid_argument"
  | unavailable => "unavailable"
  | internal => "internal"

/-- The code in a message. -/
def title : ErrorCode → String
  | notFound => "NotFound"
  | permissionDenied => "PermissionDenied"
  | invalidArgument => "InvalidArgument"
  | unavailable => "Unavailable"
  | internal => "Internal"

def ofJson? (v : Value) : Option ErrorCode := do
  let text ← kindName? .inReply v
  all.find? fun code => code.name.toList = text

end ErrorCode

namespace Reply

variable {α : Type}

def toJson (body : α → Value) : Reply α → Value
  | .ok a => .ofFields [("status", .ofString "ok"), ("body", body a)]
  | .error code message =>
    .ofFields [("status", .ofString "error"), ("code", .ofString code.name),
      ("message", .ofString message)]

/-- How deep containers may lie in a reply. -/
def maxDepth : Nat := 127

/-- The status of a reply and the value that holds the fields of its variant. -/
def split? : Value → Option (List Char × Value)
  | .object members => do
    let named ← namedMembers? members
    let status ← (← member? named "status").bind Value.text?
    return (status, .object (members.filter fun m => m.1.text? ≠ some "status".toList))
  | .array (status :: rest) => status.text?.map (·, .array rest)
  | _ => none

/-- Reads a reply whose body is read by `body?`. -/
def ofJson? (body? : Value → Option α) (v : Value) : Option (Reply α) := do
  guard (v.isMeaningful maxDepth)
  let (status, fields) ← split? v
  if status = "ok".toList then
    let [body] ← slots ["body"] fields | none
    return .ok (← required body? body)
  else if status = "error".toList then
    let [code, message] ← slots ["code", "message"] fields | none
    return .error (← required ErrorCode.ofJson? code) (← optional "" Value.string? message)
  else none

end Reply

/-! ## Bodies -/

namespace RoomList

def toJson (reply : RoomList) : Value :=
  .ofFields [("roomIds", .array (reply.roomIds.map Axial.toJson))]

def ofJson? (v : Value) : Option RoomList := do
  let [roomIds] ← slots ["roomIds"] v | none
  return ⟨← required (listOf Axial.ofJson?) roomIds⟩

end RoomList

namespace RoomPlacement

def toJson (p : RoomPlacement) : Value :=
  .ofFields [("roomId", p.room.toJson), ("position", p.position.toJson)]

def ofJson? (v : Value) : Option RoomPlacement := do
  let [room, position] ← slots ["roomId", "position"] v | none
  return ⟨← required Axial.ofJson? room, ← required RoomPosition.ofJson? position⟩

end RoomPlacement

namespace LayoutReply

def toJson (reply : LayoutReply) : Value :=
  .ofFields [("positions", .array (reply.positions.map RoomPlacement.toJson))]

def ofJson? (v : Value) : Option LayoutReply := do
  let [positions] ← slots ["positions"] v | none
  return ⟨← required (listOf RoomPlacement.ofJson?) positions⟩

end LayoutReply

namespace TerrainReply

def toJson (reply : TerrainReply) : Value :=
  .ofFields [("roomId", reply.room.toJson), ("tiles", .array (reply.tiles.map TerrainTile.toJson))]

def ofJson? (setting : Setting) (v : Value) : Option TerrainReply := do
  let [room, tiles] ← slots ["roomId", "tiles"] v | none
  return {
    room := ← required Axial.ofJson? room
    tiles := ← optional [] (listOf (TerrainTile.ofJson? setting)) tiles }

end TerrainReply

/-! ## Ticks -/

namespace RoomGroup

variable {α : Type}

/-- A group, whose members stand under the name of their category. -/
def toJson (category : String) (member : α → Value) (group : RoomGroup α) : Value :=
  .ofFields [("roomId", group.room.toJson), (category, .array (group.members.map member))]

def ofJson? (category : String) (member? : Value → Option α) (v : Value) :
    Option (RoomGroup α) := do
  let [room, members] ← slots ["roomId", category] v | none
  return {
    room := ← required Axial.ofJson? room
    members := ← optional [] (listOf member?) members }

end RoomGroup

namespace EntitiesMessage

def toJson (m : EntitiesMessage) : Value :=
  .ofFields [
    ("worldTime", .ofUInt64 m.worldTime),
    ("bots", .array (m.bots.map (RoomGroup.toJson "bots" Bot.toJson))),
    ("structures", .array (m.structures.map (RoomGroup.toJson "structures" Structure.toJson))),
    ("resources", .array (m.resources.map (RoomGroup.toJson "resources" Resource.toJson))),
    ("diagnostics", .ofOption Diagnostics.toJson m.diagnostics)]

def ofJson? (v : Value) : Option EntitiesMessage := do
  let [worldTime, bots, structures, resources, diagnostics] ←
    slots ["worldTime", "bots", "structures", "resources", "diagnostics"] v | none
  return {
    worldTime := ← required Value.uint64? worldTime
    bots := ← optional [] (listOf (RoomGroup.ofJson? "bots" Bot.ofJson?)) bots
    structures :=
      ← optional [] (listOf (RoomGroup.ofJson? "structures" Structure.ofJson?)) structures
    resources := ← optional [] (listOf (RoomGroup.ofJson? "resources" Resource.ofJson?)) resources
    diagnostics := ← nullable Diagnostics.ofJson? diagnostics }

end EntitiesMessage

end HexWorld
