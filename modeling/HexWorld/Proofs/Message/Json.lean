import HexWorld.Message.Decode
import HexWorld.Proofs.Entity.Json

/-!
# `Proofs.Message.Json` — messages survive being written and read

Whatever is written for a message is read back as the message, from the text and from its bytes.
The text of an envelope holds the status among the fields of its variant, and the reader takes it
out again. Since the whole reply has to mean something before its body is read, bodies may not be
too deep.

## Contents
- `Reply.split?_reread`, `Reply.ofJson?_reread`: envelopes.
- `RoomList`, `TerrainReply`, `RoomGroup`, `EntitiesMessage`: bodies and ticks.
- `Transmits`: what is written comes through.
- `written_is_read`: it does for every type that is both written and read.
-/

namespace HexWorld

open Json

variable {α : Type} {depth : Nat}

/-! ## Envelopes -/

@[simp] theorem ErrorCode.ofJson?_reread (code : ErrorCode) :
    ofJson? (Value.ofString code.name).reread = some code := by
  rw [ofJson?, kindName?_reread]
  cases code <;> rfl

namespace Reply

/-- The status is taken out from among the fields. -/
theorem split?_reread {status : String} {fields : List (String × Value)}
    (distinct : ("status" :: fields.map Prod.fst).Nodup) :
    split? (Value.ofFields (("status", .ofString status) :: fields)).reread =
      some (status.toList, (Value.ofFields fields).reread) := by
  have named : ((("status", Value.ofString status) :: fields).map Prod.fst).Nodup := distinct
  have tag := member?_of_mem named List.mem_cons_self
  have others : ((("status", .ofString status) :: fields).map fun f =>
      (Literal.reread (.ofText f.1.toList), f.2.reread)).filter
        (fun m => m.1.text? ≠ some "status".toList) =
      fields.map fun f => (Literal.reread (.ofText f.1.toList), f.2.reread) := by
    have names (name : String) :
        (Literal.reread (.ofText name.toList)).text? = some name.toList :=
      text?_reread (Literal.text?_ofText _)
    rw [List.map_cons, List.filter_cons_of_neg, List.filter_eq_self]
    · intro m mem
      obtain ⟨f, field, rfl⟩ := List.mem_map.mp mem
      have other : f.1 ≠ "status" := fun same =>
        (List.nodup_cons.mp distinct).1 (same ▸ List.mem_map_of_mem field)
      rw [names, decide_eq_true_eq, Ne, Option.some.injEq, String.toList_inj]
      exact other
    · rw [names]
      exact fun kept => of_decide_eq_true kept rfl
  rw [reread_ofFields, reread_ofFields, split?, namedMembers?_reread]
  show (member? _ _).bind _ = _
  rw [tag]
  show ((Value.ofString status).reread.text?).bind _ = _
  rw [text?_reread_ofString, others]
  rfl

theorem isWritten_toJson {body : α → Value} (h : ∀ a, (body a).IsWritten depth)
    (reply : Reply α) : (reply.toJson body).IsWritten (depth + 1) := by
  cases reply with
  | ok a => exact .ofFields (by simp [h])
  | error code message => exact .ofFields (by simp)

/-- **A reply is found again** if its body is. -/
theorem ofJson?_reread {body : α → Value} {body? : Value → Option α}
    (written : ∀ a, (body a).IsWritten 126) (found : ∀ a, body? (body a).reread = some a)
    (reply : Reply α) : ofJson? body? (reply.toJson body).reread = some reply := by
  have meaningful : (reply.toJson body).reread.isMeaningful maxDepth = true :=
    Value.isMeaningful_reread (isWritten_toJson written reply).meaningful
  have passed : (guard ((reply.toJson body).reread.isMeaningful maxDepth = true) : Option Unit) =
      some () := if_pos meaningful
  rw [ofJson?, passed]
  cases reply with
  | ok a =>
      rw [toJson, split?_reread (by simp)]
      simp [slots_reread, found]
  | error code message =>
      rw [toJson, split?_reread (by simp)]
      simp [slots_reread]

end Reply

/-! ## Bodies and ticks -/

namespace RoomList

theorem isWritten_toJson (reply : RoomList) : reply.toJson.IsWritten (depth + 3) :=
  .ofFields (by simp [Value.IsWritten.array])

theorem ofJson?_reread (reply : RoomList) : ofJson? reply.toJson.reread = some reply := by
  simp [ofJson?, toJson, slots_reread, listOf_reread]

end RoomList

namespace TerrainReply

theorem isWritten_toJson (reply : TerrainReply) : reply.toJson.IsWritten (depth + 4) :=
  .ofFields (by simp [Value.IsWritten.array])

theorem ofJson?_reread (setting : Setting) (reply : TerrainReply) :
    ofJson? setting reply.toJson.reread = some reply := by
  simp [ofJson?, toJson, slots_reread, listOf_reread]

end TerrainReply

namespace RoomGroup

variable {category : String} {member : α → Value}

theorem isWritten_toJson (h : ∀ a, (member a).IsWritten (depth + 1)) (group : RoomGroup α) :
    (group.toJson category member).IsWritten (depth + 3) :=
  .ofFields (by simp [Value.IsWritten.array, h])

theorem ofJson?_reread {member? : Value → Option α} (other : category ≠ "roomId")
    (h : ∀ a, member? (member a).reread = some a) (group : RoomGroup α) :
    ofJson? category member? (group.toJson category member).reread = some group := by
  simp [ofJson?, toJson, slots_reread, listOf_reread, h, other.symm]

end RoomGroup

namespace EntitiesMessage

theorem isWritten_toJson {m : EntitiesMessage} (none : m.diagnostics = none) :
    m.toJson.IsWritten (depth + 7) :=
  .ofFields (by simp [Value.IsWritten.array, RoomGroup.isWritten_toJson, none, Value.ofOption])

theorem ofJson?_reread {m : EntitiesMessage} (none : m.diagnostics = none) :
    ofJson? m.toJson.reread = some m := by
  have absent : nullable Diagnostics.ofJson?
      (some (Value.ofOption Diagnostics.toJson m.diagnostics).reread) = some m.diagnostics := by
    rw [none]
    rfl
  simp [ofJson?, toJson, slots_reread, listOf_reread, RoomGroup.ofJson?_reread, absent]

end EntitiesMessage

/-! ## Whole payloads -/

/-- The bytes of the text of a value. -/
def payload (v : Value) : List UInt8 :=
  v.render.toUTF8.toList

/-- What is written for the values among `kept` comes through. It is read back, from the text and
from its bytes; no other value has the text; and of whatever bytes were accepted as such a value,
the text that is written for it is accepted too and written again unchanged. -/
structure Transmits (kept : α → Prop) (write : α → Value) (read : Value → Option α) : Prop where
  text : ∀ a, kept a → (Value.ofString? (write a).render).bind read = some a
  bytes : ∀ a, kept a → (Value.ofBytes? (payload (write a))).bind read = some a
  injective : ∀ a b, kept a → kept b → (write a).render = (write b).render → a = b
  settled : ∀ input a, kept a → (Value.ofBytes? input).bind read = some a →
    ((Value.ofBytes? (payload (write a))).bind read).map (fun b => (write b).render) =
      some (write a).render

/-- It is enough that each value is found again in what is read for it. -/
theorem Transmits.of_reread (depth : Nat) {kept : α → Prop} {write : α → Value}
    {read : Value → Option α} (written : ∀ a, kept a → (write a).IsWritten depth)
    (found : ∀ a, kept a → read (write a).reread = some a) : Transmits kept write read := by
  have text : ∀ a, kept a → (Value.ofString? (write a).render).bind read = some a := by
    intro a h
    rw [Value.ofString?_render (written a h).proper]
    exact found a h
  have bytes : ∀ a, kept a → (Value.ofBytes? (payload (write a))).bind read = some a := by
    intro a h
    rw [payload, Value.ofBytes?_render (written a h).proper]
    exact found a h
  refine ⟨text, bytes, ?_, ?_⟩
  · intro a b ha hb same
    have read_a := text a ha
    rw [same, text b hb] at read_a
    exact (Option.some.inj read_a).symm
  · intro input a h _
    rw [bytes a h]
    rfl

/-- Every value of a type. -/
def Each (_ : α) : Prop := True

theorem Transmits.of_each (depth : Nat) {write : α → Value} {read : Value → Option α}
    (written : ∀ a, (write a).IsWritten depth) (found : ∀ a, read (write a).reread = some a) :
    Transmits Each write read :=
  .of_reread depth (fun a _ => written a) fun a _ => found a

theorem Reply.transmits {body : α → Value} {body? : Value → Option α}
    (written : ∀ a, (body a).IsWritten 126) (found : ∀ a, body? (body a).reread = some a) :
    Transmits Each (Reply.toJson body) (Reply.ofJson? body?) :=
  .of_each 127 (isWritten_toJson written) (ofJson?_reread written found)

/-- The program makes of a reply what the reply says. -/
theorem decodeReply_payload {body : α → Value} {body? : Value → Option α} {reply : Reply α}
    (h : Transmits Each (Reply.toJson body) (Reply.ofJson? body?)) (operation : String)
    (room : Option RoomId) :
    decodeReply body? operation room (payload (reply.toJson body)) =
      reply.result operation room := by
  rw [decodeReply, h.bytes reply trivial]

/-- **What is written is read.** -/
theorem written_is_read :
    Transmits Each Axial.toJson Axial.ofJson? ∧
    Transmits Each RoomId.toJson RoomId.ofJson? ∧
    Transmits Each WorldPosition.toJson WorldPosition.ofJson? ∧
    Transmits Each Bot.toJson Bot.ofJson? ∧
    Transmits Each Structure.toJson Structure.ofJson? ∧
    Transmits Each Resource.toJson Resource.ofJson? ∧
    Transmits Each RoomEntities.toJson RoomEntities.ofJson? ∧
    Transmits Each RoomObjects.toJson RoomObjects.ofJson? ∧
    Transmits Each RoomList.toJson RoomList.ofJson? ∧
    Transmits Each (Reply.toJson RoomList.toJson) (Reply.ofJson? RoomList.ofJson?) ∧
    (∀ setting, Transmits Each TerrainTile.toJson (TerrainTile.ofJson? setting) ∧
      Transmits Each TerrainReply.toJson (TerrainReply.ofJson? setting) ∧
      Transmits Each (Reply.toJson TerrainReply.toJson)
        (Reply.ofJson? (TerrainReply.ofJson? setting))) ∧
    Transmits (fun m => m.diagnostics = none) EntitiesMessage.toJson EntitiesMessage.ofJson? ∧
    (∀ operation room (reply : Reply RoomList),
      decodeReply RoomList.ofJson? operation room (payload (reply.toJson RoomList.toJson)) =
        reply.result operation room) ∧
    (∀ setting operation room (reply : Reply TerrainReply),
      decodeReply (TerrainReply.ofJson? setting) operation room
        (payload (reply.toJson TerrainReply.toJson)) = reply.result operation room) ∧
    ∀ m : EntitiesMessage, m.diagnostics = none → decodeEntities (payload m.toJson) = .ok m := by
  have entities : Transmits (fun m => m.diagnostics = none) EntitiesMessage.toJson
      EntitiesMessage.ofJson? :=
    .of_reread 7 (fun _ => EntitiesMessage.isWritten_toJson)
      fun _ => EntitiesMessage.ofJson?_reread
  have rooms : Transmits Each (Reply.toJson RoomList.toJson) (Reply.ofJson? RoomList.ofJson?) :=
    Reply.transmits RoomList.isWritten_toJson RoomList.ofJson?_reread
  have terrain (setting : Setting) : Transmits Each (Reply.toJson TerrainReply.toJson)
      (Reply.ofJson? (TerrainReply.ofJson? setting)) :=
    Reply.transmits TerrainReply.isWritten_toJson (TerrainReply.ofJson?_reread setting)
  refine ⟨.of_each 1 Axial.isWritten_toJson Axial.ofJson?_reread,
    .of_each 0 RoomId.isWritten_toJson RoomId.ofJson?_reread,
    .of_each 2 WorldPosition.isWritten_toJson WorldPosition.ofJson?_reread,
    .of_each 3 Bot.isWritten_toJson Bot.ofJson?_reread,
    .of_each 3 Structure.isWritten_toJson Structure.ofJson?_reread,
    .of_each 3 Resource.isWritten_toJson Resource.ofJson?_reread,
    .of_each 5 RoomEntities.isWritten_toJson RoomEntities.ofJson?_reread,
    .of_each 6 RoomObjects.isWritten_toJson RoomObjects.ofJson?_reread,
    .of_each 3 RoomList.isWritten_toJson RoomList.ofJson?_reread, rooms, ?_, entities,
    fun operation room reply => decodeReply_payload rooms operation room,
    fun setting operation room reply => decodeReply_payload (terrain setting) operation room, ?_⟩
  · intro setting
    exact ⟨.of_each 2 TerrainTile.isWritten_toJson (TerrainTile.ofJson?_reread setting),
      .of_each 4 TerrainReply.isWritten_toJson (TerrainReply.ofJson?_reread setting),
      terrain setting⟩
  · intro m none
    rw [decodeEntities, entities.bytes m none]

/-- A tick with numbers at the ends of their ranges, and a refusal in quotes, controls and a
character beyond sixteen bits. -/
theorem written_is_read_widest :
    let tick : EntitiesMessage :=
      ⟨0xFFFFFFFFFFFFFFFF, [⟨⟨-0x80000000, 0x7FFFFFFF⟩, [default]⟩], [], [], none⟩
    let refusal : Reply RoomList := .error .permissionDenied "\"\\\u0000\x7f😀"
    tick.diagnostics = none ∧ decodeEntities (payload tick.toJson) = .ok tick ∧
      decodeReply RoomList.ofJson? "list" none (payload (refusal.toJson RoomList.toJson)) =
        refusal.result "list" none := by
  intro tick refusal
  obtain ⟨-, -, -, -, -, -, -, -, -, -, -, -, replies, -, ticks⟩ := written_is_read
  exact ⟨rfl, ticks tick rfl, replies "list" none refusal⟩

end HexWorld
