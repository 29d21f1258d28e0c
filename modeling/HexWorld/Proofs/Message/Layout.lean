import HexWorld.Proofs.Decimal.Single
import HexWorld.Proofs.Message.Envelope
import HexWorld.Proofs.Message.Json
import HexWorld.Proofs.Message.Variation

/-!
# `Proofs.Message.Layout` — layouts, written and read again

The places of rooms are the only numbers with a fraction in what a source says about the world. They
are narrowed to 32 bits when they are read, and a number beyond these becomes infinite. What is not
finite is written as `null`, which is no number to the reader. So a layout comes through exactly if
all its places are finite.

## Contents
- `single?_reread_ofSingle`: a number of 32 bits, written and read.
- `LayoutReply.IsFinite`, and `LayoutReply.IsRegular` for what reading can give, with
  `isRegular_of_carries`.
- `LayoutReply.ofJson?_reread`: what is read for a layout that was written.
- `ofBytes?_payload`, `decodeReply_payload`: a layout by itself and in a reply.
-/

namespace HexWorld

open Json

variable {depth : Nat}

/-! ## Numbers -/

namespace Json.Value

theorem isWritten_ofSingle {x : Single} (regular : x.IsRegular) : (ofSingle x).IsWritten depth := by
  cases x with
  | finite negative x =>
      obtain ⟨proper, meaningful⟩ := isProper_write regular negative
      exact ⟨List.forall_mem_singleton.mpr proper, meaningful⟩
  | infinite | notNumber => exact isWritten_null

/-- **A number of 32 bits is found again if it is finite**, and otherwise there is no number. -/
theorem single?_reread_ofSingle {x : Single} (regular : x.IsRegular) :
    (ofSingle x).reread.single? = if x.IsFinite then some x else none := by
  cases x with
  | finite negative x => exact single?_write regular negative
  | infinite | notNumber => rfl

theorem required_single?_eq_some_iff {slot : Option Value} {x : Single} :
    required single? slot = some x ↔ ∃ n, slot = some (.number n) ∧ n.single? = some x := by
  constructor
  · intro h
    obtain ⟨v, rfl, read⟩ := Option.bind_eq_some_iff.mp h
    cases v with
    | number n => exact ⟨n, rfl, read⟩
    | null | bool | string | array | object => cases read
  · rintro ⟨n, rfl, read⟩
    exact read

end Json.Value

/-- What a list was read into was read from its items. -/
theorem exists_of_mem_mapM {α β : Type} {f : α → Option β} {items : List α} {found : List β}
    (h : items.mapM f = some found) {b : β} (mem : b ∈ found) : ∃ a ∈ items, f a = some b := by
  induction items generalizing found with
  | nil =>
      cases h
      cases mem
  | cons a rest ih =>
      rw [List.mapM_cons] at h
      obtain ⟨first, read, h⟩ := Option.bind_eq_some_iff.mp h
      obtain ⟨others, later, h⟩ := Option.bind_eq_some_iff.mp h
      cases h
      rcases List.mem_cons.mp mem with rfl | mem
      · exact ⟨a, List.mem_cons_self, read⟩
      · obtain ⟨item, item_mem, read⟩ := ih later mem
        exact ⟨item, List.mem_cons_of_mem a item_mem, read⟩

/-! ## Places -/

namespace RoomPosition

def IsFinite (p : RoomPosition) : Prop :=
  p.x.IsFinite ∧ p.y.IsFinite

instance (p : RoomPosition) : Decidable p.IsFinite :=
  inferInstanceAs (Decidable (_ ∧ _))

/-- The numbers can have been read. -/
def IsRegular (p : RoomPosition) : Prop :=
  p.x.IsRegular ∧ p.y.IsRegular

theorem isWritten_toJson {p : RoomPosition} (regular : p.IsRegular) :
    p.toJson.IsWritten (depth + 1) :=
  .ofFields (by simp [Value.isWritten_ofSingle, regular.1, regular.2])

theorem ofJson?_reread {p : RoomPosition} (regular : p.IsRegular) :
    ofJson? p.toJson.reread = if p.IsFinite then some p else none := by
  have read : ofJson? p.toJson.reread =
      ((Value.ofSingle p.x).reread.single?).bind fun x =>
        ((Value.ofSingle p.y).reread.single?).bind fun y => some ⟨x, y⟩ := by
    simp [ofJson?, toJson, slots_reread]
  rw [read, Value.single?_reread_ofSingle regular.1, Value.single?_reread_ofSingle regular.2]
  unfold IsFinite
  by_cases x_finite : p.x.IsFinite <;> by_cases y_finite : p.y.IsFinite <;>
    simp [x_finite, y_finite]

/-- A place is read from two numbers. -/
theorem exists_numbers_of_ofJson? {v : Value} {p : RoomPosition} (h : ofJson? v = some p) :
    ∃ n m : Number, slots ["x", "y"] v = some [some (.number n), some (.number m)] ∧
      n.single? = some p.x ∧ m.single? = some p.y := by
  obtain ⟨row, slots_eq, h⟩ := Option.bind_eq_some_iff.mp h
  split at h
  next x y =>
    obtain ⟨x, read_x, h⟩ := Option.bind_eq_some_iff.mp h
    obtain ⟨y, read_y, h⟩ := Option.bind_eq_some_iff.mp h
    cases h
    obtain ⟨n, rfl, read_x⟩ := Value.required_single?_eq_some_iff.mp read_x
    obtain ⟨m, rfl, read_y⟩ := Value.required_single?_eq_some_iff.mp read_y
    exact ⟨n, m, slots_eq, read_x, read_y⟩
  next => cases h

theorem isRegular_of_ofJson? {v : Value} {p : RoomPosition} (h : ofJson? v = some p) :
    p.IsRegular := by
  obtain ⟨n, m, -, read_x, read_y⟩ := exists_numbers_of_ofJson? h
  exact ⟨Number.isRegular_of_single? read_x, Number.isRegular_of_single? read_y⟩

/-- **A place is finite exactly if its numbers fit.** -/
theorem exists_numbers_isFinite_iff {v : Value} {p : RoomPosition} (h : ofJson? v = some p) :
    ∃ n m : Number, slots ["x", "y"] v = some [some (.number n), some (.number m)] ∧
      (p.IsFinite ↔ n.FitsSingle ∧ m.FitsSingle) := by
  obtain ⟨n, m, slots_eq, read_x, read_y⟩ := exists_numbers_of_ofJson? h
  exact ⟨n, m, slots_eq, and_congr (Number.isFinite_of_single?_iff read_x)
    (Number.isFinite_of_single?_iff read_y)⟩

end RoomPosition

namespace RoomPlacement

theorem isWritten_toJson {p : RoomPlacement} (regular : p.position.IsRegular) :
    p.toJson.IsWritten (depth + 2) :=
  .ofFields (by simp [RoomPosition.isWritten_toJson regular])

theorem ofJson?_reread {p : RoomPlacement} (regular : p.position.IsRegular) :
    ofJson? p.toJson.reread = if p.position.IsFinite then some p else none := by
  have read : ofJson? p.toJson.reread =
      (RoomPosition.ofJson? p.position.toJson.reread).bind fun position =>
        some ⟨p.room, position⟩ := by
    simp [ofJson?, toJson, slots_reread]
  rw [read, RoomPosition.ofJson?_reread regular]
  by_cases finite : p.position.IsFinite <;> simp [finite]

theorem isRegular_of_ofJson? {v : Value} {p : RoomPlacement} (h : ofJson? v = some p) :
    p.position.IsRegular := by
  obtain ⟨row, -, h⟩ := Option.bind_eq_some_iff.mp h
  split at h
  next room position =>
    obtain ⟨room, -, h⟩ := Option.bind_eq_some_iff.mp h
    obtain ⟨position, required, h⟩ := Option.bind_eq_some_iff.mp h
    obtain ⟨v, -, read⟩ := Option.bind_eq_some_iff.mp required
    cases h
    exact RoomPosition.isRegular_of_ofJson? read
  next => cases h

end RoomPlacement

namespace LayoutReply

def IsFinite (reply : LayoutReply) : Prop :=
  ∀ p ∈ reply.positions, p.position.IsFinite

instance (reply : LayoutReply) : Decidable reply.IsFinite :=
  inferInstanceAs (Decidable (∀ p ∈ reply.positions, p.position.IsFinite))

/-- The places can have been read. -/
def IsRegular (reply : LayoutReply) : Prop :=
  ∀ p ∈ reply.positions, p.position.IsRegular

theorem isWritten_toJson {reply : LayoutReply} (regular : reply.IsRegular) :
    reply.toJson.IsWritten (depth + 4) := by
  refine .ofFields (List.forall_mem_singleton.mpr (.array fun v mem => ?_))
  obtain ⟨p, placed, rfl⟩ := List.mem_map.mp mem
  exact RoomPlacement.isWritten_toJson (regular p placed)

/-- **A layout is found again if all its places are finite**, and otherwise it is refused. -/
theorem ofJson?_reread {reply : LayoutReply} (regular : reply.IsRegular) :
    ofJson? reply.toJson.reread = if reply.IsFinite then some reply else none := by
  have read : ofJson? reply.toJson.reread =
      (reply.positions.mapM fun p => RoomPlacement.ofJson? p.toJson.reread).map mk := by
    have listed : listOf RoomPlacement.ofJson?
        (Value.array (reply.positions.map RoomPlacement.toJson)).reread =
          reply.positions.mapM fun p => RoomPlacement.ofJson? p.toJson.reread := by
      show (Value.itemsReread _).mapM _ = _
      rw [Value.itemsReread_eq, List.mapM_map, List.mapM_map]
      rfl
    simp only [ofJson?, toJson, slots_reread, List.map_cons, List.map_nil, List.nodup_singleton,
      Option.bind_eq_bind, Option.bind_some, required_some, listed]
    exact Option.map_eq_bind.symm
  rw [read]
  by_cases finite : reply.IsFinite
  · have found : reply.positions.mapM (fun p => RoomPlacement.ofJson? p.toJson.reread) =
        some (reply.positions.map id) := by
      refine mapM_eq_some_map fun p placed => ?_
      rw [RoomPlacement.ofJson?_reread (regular p placed), if_pos (finite p placed)]
      rfl
    rw [found, List.map_id, if_pos finite]
    rfl
  · obtain ⟨p, placed, infinite⟩ : ∃ p ∈ reply.positions, ¬p.position.IsFinite := by
      by_contra none
      exact finite fun p placed => by_contra fun infinite => none ⟨p, placed, infinite⟩
    have missing : RoomPlacement.ofJson? p.toJson.reread = none := by
      rw [RoomPlacement.ofJson?_reread (regular p placed), if_neg infinite]
    rw [mapM_eq_none placed missing, if_neg finite]
    rfl

theorem isRegular_of_ofJson? {v : Value} {reply : LayoutReply} (h : ofJson? v = some reply) :
    reply.IsRegular := by
  obtain ⟨row, -, h⟩ := Option.bind_eq_some_iff.mp h
  split at h
  next positions =>
    obtain ⟨placements, required, h⟩ := Option.bind_eq_some_iff.mp h
    obtain ⟨v, -, list⟩ := Option.bind_eq_some_iff.mp required
    obtain ⟨items, -, read⟩ := Option.bind_eq_some_iff.mp list
    cases h
    intro p placed
    obtain ⟨item, -, read⟩ := exists_of_mem_mapM read placed
    exact RoomPlacement.isRegular_of_ofJson? read
  next => cases h

end LayoutReply

/-! ## Replies -/

/-- A body is found in a reply if it is found by itself. -/
theorem Reply.ofJson?_reread_ok {α : Type} {body : α → Value} {body? : Value → Option α} {a : α}
    (written : (body a).IsWritten 126) :
    ofJson? body? (toJson body (.ok a)).reread = (body? (body a).reread).map .ok := by
  have meaningful : (toJson body (.ok a)).reread.isMeaningful maxDepth = true :=
    Value.isMeaningful_reread (Value.IsWritten.ofFields (by simp [written])).meaningful
  have passed : (guard ((toJson body (.ok a)).reread.isMeaningful maxDepth = true) :
      Option Unit) = some () := if_pos meaningful
  rw [ofJson?, passed, toJson, split?_reread (by simp)]
  cases found : body? (body a).reread <;> simp [slots_reread, found]

namespace LayoutReply

variable {reply : LayoutReply}

/-- **A layout comes through by itself if all its places are finite**, and otherwise it is
refused. -/
theorem ofBytes?_payload (regular : reply.IsRegular) :
    (Value.ofBytes? (payload reply.toJson)).bind ofJson? =
      if reply.IsFinite then some reply else none := by
  have written : reply.toJson.IsWritten 4 := isWritten_toJson regular
  rw [payload, Value.ofBytes?_render written.proper]
  exact ofJson?_reread regular

/-- **The same holds of a layout in a reply.** -/
theorem decodeReply_payload (regular : reply.IsRegular) (operation : String)
    (room : Option RoomId) :
    decodeReply ofJson? operation room (payload (Reply.toJson toJson (.ok reply))) =
      if reply.IsFinite then .ok reply
      else .error (.protocol s!"undecodable {operation} reply") := by
  have written : reply.toJson.IsWritten 126 := isWritten_toJson regular
  have whole : (Reply.toJson toJson (.ok reply)).IsWritten 127 := .ofFields (by simp [written])
  rw [decodeReply, payload, Value.ofBytes?_render whole.proper, Option.bind_some,
    Reply.ofJson?_reread_ok written, ofJson?_reread regular]
  by_cases finite : reply.IsFinite
  · rw [if_pos finite, if_pos finite]
    rfl
  · rw [if_neg finite, if_neg finite]
    rfl

/-- What a payload carries is regular. -/
theorem isRegular_of_carries {input : List UInt8} (h : Carries ofJson? input (.ok reply)) :
    reply.IsRegular := by
  obtain ⟨v, document, meaningful, envelope⟩ := h
  cases envelope with
  | okObject _ _ _ reads | okArray _ reads => exact isRegular_of_ofJson? reads

end LayoutReply

end HexWorld
