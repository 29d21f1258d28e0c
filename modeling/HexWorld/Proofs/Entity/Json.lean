import HexWorld.Entity.Json
import HexWorld.Proofs.Json.Record
import HexWorld.Proofs.Text.Uuid
import HexWorld.Proofs.World.RoomText

/-!
# `Proofs.Entity.Json` — entities survive being written and read

For each type there are two lemmas: what is written for its values can be read, and it is read as
what it was written for. A record gets them from its fields, whose lemmas `simp` knows; whoever adds
a field adds it to the two definitions and nothing here.

## Contents
- `isWritten_toJson` and `ofJson?_reread` of places, rooms, entities and tiles.
- `kindName?_reread`: names of kinds.
-/

namespace HexWorld

open Json

variable {depth : Nat}

/-! ## Places and rooms -/

namespace Axial

@[simp] theorem isWritten_toJson (a : Axial) : a.toJson.IsWritten (depth + 1) :=
  .ofFields (by simp)

@[simp] theorem ofJson?_reread (a : Axial) : ofJson? a.toJson.reread = some a := by
  simp [ofJson?, toJson, slots_reread]

end Axial

namespace RoomId

@[simp] theorem isWritten_toJson (room : RoomId) : room.toJson.IsWritten depth :=
  Value.isWritten_ofString room.text

@[simp] theorem ofJson?_reread (room : RoomId) : ofJson? room.toJson.reread = some room := by
  rw [ofJson?, toJson, text?_reread_ofString]
  exact ofText?_eq_some_iff.mpr (writes_text room)

end RoomId

namespace WorldPosition

@[simp] theorem isWritten_toJson (p : WorldPosition) : p.toJson.IsWritten (depth + 2) :=
  .ofFields (by simp)

@[simp] theorem ofJson?_reread (p : WorldPosition) : ofJson? p.toJson.reread = some p := by
  simp [ofJson?, toJson, slots_reread]

end WorldPosition

namespace Uuid

theorem isWritten_toJson (u : Uuid) : u.toJson.IsWritten depth :=
  Value.isWritten_ofText u.text

theorem ofJson?_reread (u : Uuid) : ofJson? u.toJson.reread = some u := by
  rw [ofJson?, toJson, text?_reread_ofText]
  exact ofText?_text u

/-- An identifier that may be absent. -/
@[simp] theorem isWritten_ofOption (u? : Option Uuid) :
    (Value.ofOption toJson u?).IsWritten depth :=
  .ofOption u? isWritten_toJson

@[simp] theorem nullable_ofJson?_reread (u? : Option Uuid) :
    nullable ofJson? (some (Value.ofOption toJson u?).reread) = some u? :=
  nullable_reread u? ofJson?_reread fun _ => nofun

end Uuid

/-! ## Kinds -/

/-- A name is read as a name wherever it stands. -/
@[simp] theorem kindName?_reread (setting : Setting) (name : String) :
    kindName? setting (Value.ofString name).reread = some name.toList :=
  text?_reread_ofString name

@[simp] theorem StructureKind.ofJson?_reread (kind : StructureKind) :
    ofJson? (Value.ofString kind.name).reread = some kind := by
  rw [ofJson?, kindName?_reread]
  cases kind <;> rfl

@[simp] theorem ResourceKind.ofJson?_reread (kind : ResourceKind) :
    ofJson? (Value.ofString kind.name).reread = some kind := by
  rw [ofJson?, kindName?_reread]
  cases kind <;> rfl

@[simp] theorem TerrainKind.ofJson?_reread (setting : Setting) (kind : TerrainKind) :
    ofJson? setting (Value.ofString kind.name).reread = some kind := by
  rw [ofJson?, kindName?_reread]
  cases kind <;> rfl

/-! ## Entities -/

namespace Bot

@[simp] theorem isWritten_toJson (b : Bot) : b.toJson.IsWritten (depth + 3) :=
  .ofFields (by simp)

@[simp] theorem ofJson?_reread (b : Bot) : ofJson? b.toJson.reread = some b := by
  simp [ofJson?, toJson, slots_reread]

end Bot

namespace Structure

@[simp] theorem isWritten_toJson (s : Structure) : s.toJson.IsWritten (depth + 3) :=
  .ofFields (by simp)

@[simp] theorem ofJson?_reread (s : Structure) : ofJson? s.toJson.reread = some s := by
  simp [ofJson?, toJson, slots_reread]

end Structure

namespace Resource

@[simp] theorem isWritten_toJson (r : Resource) : r.toJson.IsWritten (depth + 3) :=
  .ofFields (by simp)

@[simp] theorem ofJson?_reread (r : Resource) : ofJson? r.toJson.reread = some r := by
  simp [ofJson?, toJson, slots_reread]

end Resource

namespace RoomEntities

@[simp] theorem isWritten_toJson (e : RoomEntities) : e.toJson.IsWritten (depth + 5) :=
  .ofFields (by simp [Value.IsWritten.array])

@[simp] theorem ofJson?_reread (e : RoomEntities) : ofJson? e.toJson.reread = some e := by
  simp [ofJson?, toJson, slots_reread, listOf_reread]

end RoomEntities

namespace RoomObjects

@[simp] theorem isWritten_toJson (view : RoomObjects) : view.toJson.IsWritten (depth + 6) :=
  .ofFields (by simp [fields])

@[simp] theorem ofJson?_reread (view : RoomObjects) : ofJson? view.toJson.reread = some view := by
  simp [ofJson?, toJson, fields, slots_reread]

end RoomObjects

/-! ## Ground -/

namespace TerrainTile

@[simp] theorem isWritten_toJson (t : TerrainTile) : t.toJson.IsWritten (depth + 2) :=
  .ofFields (by simp)

@[simp] theorem ofJson?_reread (setting : Setting) (t : TerrainTile) :
    ofJson? setting t.toJson.reread = some t := by
  simp [ofJson?, toJson, slots_reread]

end TerrainTile

end HexWorld
