import HexWorld.Json.Record
import HexWorld.Entity.Basic

/-!
# Entities in JSON

Each type is written as an object with its fields in order. Reading follows the rules of records;
amounts and owners may be absent.

## Contents
- `toJson` and `ofJson?` for places, rooms, entities, tiles, layout positions and diagnostics.
- `Setting`, the one respect in which reading depends on where a value stands.
-/

namespace HexWorld

open Json

/-! ## Places and rooms -/

namespace Axial

def toJson (a : Axial) : Value :=
  .ofFields [("q", .ofInt32 a.q), ("r", .ofInt32 a.r)]

def ofJson? (v : Value) : Option Axial := do
  let [q, r] ← slots ["q", "r"] v | none
  return ⟨← required Value.int32? q, ← required Value.int32? r⟩

end Axial

namespace RoomId

/-- A room is written as its text. -/
def toJson (room : RoomId) : Value :=
  .ofString room.text

def ofJson? (v : Value) : Option RoomId := do
  let text ← v.text?
  ofText? text

end RoomId

namespace WorldPosition

def toJson (p : WorldPosition) : Value :=
  .ofFields [("room", p.room.toJson), ("pos", p.pos.toJson)]

def ofJson? (v : Value) : Option WorldPosition := do
  let [room, pos] ← slots ["room", "pos"] v | none
  return ⟨← required Axial.ofJson? room, ← required Axial.ofJson? pos⟩

end WorldPosition

namespace Uuid

def toJson (u : Uuid) : Value :=
  .ofText u.text

def ofJson? (v : Value) : Option Uuid := do
  let text ← v.text?
  ofText? text

end Uuid

/-! ## Kinds -/

/-- Where a value stands: by itself, or in the body of a reply. The kind of a tile may be written
as an object with one member; the member is `null`, and in a reply it may be an empty object too. -/
inductive Setting where
  | alone
  | inReply
  deriving DecidableEq

/-- The name of a kind. -/
def kindName? (setting : Setting) : Value → Option (List Char)
  | .string s => s.text?
  | .object [(name, .null)] => name.text?
  | .object [(name, .object [])] => if setting = .inReply then name.text? else none
  | _ => none

namespace StructureKind

def name : StructureKind → String
  | spawn => "spawn"
  | unknown => "unknown"

def ofJson? (v : Value) : Option StructureKind :=
  (kindName? .alone v).map fun text => if text = spawn.name.toList then spawn else unknown

end StructureKind

namespace ResourceKind

def name : ResourceKind → String
  | energy => "energy"
  | unknown => "unknown"

def ofJson? (v : Value) : Option ResourceKind :=
  (kindName? .alone v).map fun text => if text = energy.name.toList then energy else unknown

end ResourceKind

namespace TerrainKind

def all : List TerrainKind := [empty, plain, wall, bridge]

def name : TerrainKind → String
  | empty => "empty"
  | plain => "plain"
  | wall => "wall"
  | bridge => "bridge"

def ofJson? (setting : Setting) (v : Value) : Option TerrainKind := do
  let text ← kindName? setting v
  all.find? fun kind => kind.name.toList = text

end TerrainKind

/-! ## Entities -/

namespace Bot

def toJson (b : Bot) : Value :=
  .ofFields [
    ("id", .ofUInt64 b.id), ("position", b.position.toJson),
    ("ownerId", .ofOption Uuid.toJson b.ownerId), ("scriptId", .ofOption Uuid.toJson b.scriptId),
    ("carry", .ofUInt32 b.carry), ("carryMax", .ofUInt32 b.carryMax),
    ("hp", .ofUInt32 b.hp), ("hpMax", .ofUInt32 b.hpMax)]

def ofJson? (v : Value) : Option Bot := do
  let [id, position, ownerId, scriptId, carry, carryMax, hp, hpMax] ←
    slots ["id", "position", "ownerId", "scriptId", "carry", "carryMax", "hp", "hpMax"] v | none
  return {
    id := ← required Value.uint64? id
    position := ← required WorldPosition.ofJson? position
    ownerId := ← nullable Uuid.ofJson? ownerId
    scriptId := ← nullable Uuid.ofJson? scriptId
    carry := ← optional 0 Value.uint32? carry
    carryMax := ← optional 0 Value.uint32? carryMax
    hp := ← optional 0 Value.uint32? hp
    hpMax := ← optional 0 Value.uint32? hpMax }

end Bot

namespace Structure

def toJson (s : Structure) : Value :=
  .ofFields [
    ("id", .ofUInt64 s.id), ("position", s.position.toJson), ("kind", .ofString s.kind.name),
    ("ownerId", .ofOption Uuid.toJson s.ownerId),
    ("hp", .ofUInt32 s.hp), ("hpMax", .ofUInt32 s.hpMax),
    ("energy", .ofUInt32 s.energy), ("energyMax", .ofUInt32 s.energyMax)]

def ofJson? (v : Value) : Option Structure := do
  let [id, position, kind, ownerId, hp, hpMax, energy, energyMax] ←
    slots ["id", "position", "kind", "ownerId", "hp", "hpMax", "energy", "energyMax"] v | none
  return {
    id := ← required Value.uint64? id
    position := ← required WorldPosition.ofJson? position
    kind := ← required StructureKind.ofJson? kind
    ownerId := ← nullable Uuid.ofJson? ownerId
    hp := ← optional 0 Value.uint32? hp
    hpMax := ← optional 0 Value.uint32? hpMax
    energy := ← optional 0 Value.uint32? energy
    energyMax := ← optional 0 Value.uint32? energyMax }

end Structure

namespace Resource

def toJson (r : Resource) : Value :=
  .ofFields [
    ("id", .ofUInt64 r.id), ("position", r.position.toJson), ("kind", .ofString r.kind.name),
    ("amount", .ofUInt32 r.amount), ("amountMax", .ofUInt32 r.amountMax)]

def ofJson? (v : Value) : Option Resource := do
  let [id, position, kind, amount, amountMax] ←
    slots ["id", "position", "kind", "amount", "amountMax"] v | none
  return {
    id := ← required Value.uint64? id
    position := ← required WorldPosition.ofJson? position
    kind := ← required ResourceKind.ofJson? kind
    amount := ← optional 0 Value.uint32? amount
    amountMax := ← optional 0 Value.uint32? amountMax }

end Resource

namespace RoomEntities

def toJson (e : RoomEntities) : Value :=
  .ofFields [
    ("bots", .array (e.bots.map Bot.toJson)),
    ("structures", .array (e.structures.map Structure.toJson)),
    ("resources", .array (e.resources.map Resource.toJson))]

def ofJson? (v : Value) : Option RoomEntities := do
  let [bots, structures, resources] ← slots ["bots", "structures", "resources"] v | none
  return {
    bots := ← required (listOf Bot.ofJson?) bots
    structures := ← required (listOf Structure.ofJson?) structures
    resources := ← required (listOf Resource.ofJson?) resources }

end RoomEntities

namespace RoomObjects

/-- The members of a view, which messages about it repeat. -/
def fields (view : RoomObjects) : List (String × Value) :=
  [("time", .ofInt64 view.time), ("roomId", view.room.toJson), ("payload", view.payload.toJson)]

def toJson (view : RoomObjects) : Value :=
  .ofFields view.fields

def ofJson? (v : Value) : Option RoomObjects := do
  let [time, room, payload] ← slots ["time", "roomId", "payload"] v | none
  return {
    time := ← required Value.int64? time
    room := ← required RoomId.ofJson? room
    payload := ← required RoomEntities.ofJson? payload }

end RoomObjects

/-! ## Ground, layout and health -/

namespace TerrainTile

def toJson (t : TerrainTile) : Value :=
  .ofFields [("position", t.position.toJson), ("terrain", .ofString t.terrain.name)]

def ofJson? (setting : Setting) (v : Value) : Option TerrainTile := do
  let [position, terrain] ← slots ["position", "terrain"] v | none
  return {
    position := ← required Axial.ofJson? position
    terrain := ← required (TerrainKind.ofJson? setting) terrain }

end TerrainTile

namespace RoomPosition

def toJson (p : RoomPosition) : Value :=
  .ofFields [("x", .ofSingle p.x), ("y", .ofSingle p.y)]

def ofJson? (v : Value) : Option RoomPosition := do
  let [x, y] ← slots ["x", "y"] v | none
  return ⟨← required Value.single? x, ← required Value.single? y⟩

end RoomPosition

namespace Diagnostics

def toJson (d : Diagnostics) : Value :=
  .ofFields [
    ("tickLatencyMs", .ofDouble d.tickLatencyMs), ("scriptsRun", .ofUInt64 d.scriptsRun),
    ("scriptsFailed", .ofUInt64 d.scriptsFailed), ("intents", .ofUInt64 d.intents),
    ("entities", .ofUInt64 d.entities)]

def ofJson? (v : Value) : Option Diagnostics := do
  let [tickLatencyMs, scriptsRun, scriptsFailed, intents, entities] ←
    slots ["tickLatencyMs", "scriptsRun", "scriptsFailed", "intents", "entities"] v | none
  return {
    tickLatencyMs := ← optional default Value.double? tickLatencyMs
    scriptsRun := ← optional 0 Value.uint64? scriptsRun
    scriptsFailed := ← optional 0 Value.uint64? scriptsFailed
    intents := ← optional 0 Value.uint64? intents
    entities := ← optional 0 Value.uint64? entities }

end Diagnostics

end HexWorld
