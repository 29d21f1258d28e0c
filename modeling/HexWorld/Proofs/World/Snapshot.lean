import HexWorld.Proofs.World.Bootstrap
import HexWorld.World.Snapshot

/-!
# `Proofs.World.Snapshot` — how snapshots follow each other

An update either makes the next snapshot, or is refused and makes none. `Snapshot.apply_cases` says
which, and `Snapshot.after` is the next snapshot on its own, so that later proofs do not open the
checks again.

## Contents
- `forall_mem_concat`, `pairwise_concat`, `rel_or_eq_of_getLast?`: histories grow at the end.
- `RoomMap.find?_overlay`: look-ups after the entries of one map have been put into another.
- `Snapshot.after`, `apply_cases`, `apply_eq_ok_iff`, `room?_after`.
- `exists_roomObjects`, `view_of_roomObjects`, `latestObjects_cases`: when a room can be looked up,
  and what is found.
- `Snapshot.Before`, the order in which snapshots are published.
- `Snapshot.IsSound`, which the first snapshot of a session has and updates keep.
-/

namespace HexWorld

/-! ## Histories -/

section Histories

variable {α : Type} {R : α → α → Prop} {past : List α} {a b : α}

theorem forall_mem_concat {p : α → Prop} (all : ∀ b ∈ past, p b) (new : p a) :
    ∀ b ∈ past ++ [a], p b := by
  intro b hb
  rcases List.mem_append.mp hb with hb | hb
  · exact all b hb
  · rw [List.mem_singleton.mp hb]
    exact new

/-- An ordered history stays ordered if what is added comes after everything. -/
theorem pairwise_concat (h : past.Pairwise R) (new : ∀ b ∈ past, R b a) :
    (past ++ [a]).Pairwise R := by
  rw [List.pairwise_append]
  refine ⟨h, List.pairwise_singleton _ _, fun b hb c hc => ?_⟩
  rw [List.mem_singleton.mp hc]
  exact new b hb

/-- In an ordered history, everything comes before the last item. -/
theorem rel_or_eq_of_getLast? (h : past.Pairwise R) (last : past.getLast? = some a)
    (hb : b ∈ past) : R b a ∨ b = a := by
  obtain ⟨front, rfl⟩ := List.getLast?_eq_some_iff.mp last
  rcases List.mem_append.mp hb with hb | hb
  · exact .inl ((List.pairwise_append.mp h).2.2 b hb a List.mem_cons_self)
  · exact .inr (List.mem_singleton.mp hb)

end Histories

/-! ## Putting one map over another -/

theorem RoomMap.find?_foldl_insert {α : Type} {es : List (RoomId × α)}
    (distinct : es.Pairwise fun a b => a.1 < b.1) (m : RoomMap α) (room : RoomId) :
    (es.foldl (fun m e => m.insert e.1 e.2) m).find? room =
      ((es.find? (·.1 = room)).map (·.2)).or (m.find? room) := by
  induction es generalizing m with
  | nil => rfl
  | cons e rest ih =>
      obtain ⟨later, rest_distinct⟩ := List.pairwise_cons.mp distinct
      rw [List.foldl_cons, ih rest_distinct, RoomMap.find?_insert, List.find?_cons]
      by_cases same : e.1 = room
      · -- The room has its only entry here, so nothing later replaces it.
        have absent : rest.find? (·.1 = room) = none := by
          rw [List.find?_eq_none]
          intro d hd
          have lt : e.1 < d.1 := later d hd
          rw [same] at lt
          intro again
          exact RoomId.lt_irrefl room (of_decide_eq_true again ▸ lt)
        rw [absent]
        simp [same]
      · simp [same]

/-- The entries of one map, put into another, hide what was there for their rooms. -/
theorem RoomMap.find?_overlay {α : Type} (n m : RoomMap α) (room : RoomId) :
    (n.entries.foldl (fun m e => m.insert e.1 e.2) m).find? room =
      (n.find? room).or (m.find? room) :=
  RoomMap.find?_foldl_insert n.increasing m room

namespace Snapshot

/-! ## The next snapshot -/

/-- The snapshot after an update, whether or not the update may be applied. -/
def after (previous : Snapshot) (update : Update) : Snapshot :=
  { previous with
    worldTime := update.worldTime
    entities := some <| update.rooms.entries.foldl (fun m e => m.insert e.1 e.2)
      (previous.entities.getD .empty)
    diagnostics := update.diagnostics }

/-- All rooms that an update names are declared. -/
def Declares (s : Snapshot) (update : Update) : Prop :=
  ∀ room ∈ update.rooms.keys, room ∈ s.topology.rooms

/-- **What becomes of an update**: late, or not late but about an undeclared room, or applied. -/
theorem apply_cases (previous : Snapshot) (update : Update) :
    (update.worldTime ≤ previous.worldTime ∧
      previous.apply update = .error (.stale update.worldTime previous.worldTime)) ∨
    (previous.worldTime < update.worldTime ∧ ¬previous.Declares update ∧
      ∃ room, previous.apply update = .error (.unknownRoom room)) ∨
    (previous.worldTime < update.worldTime ∧ previous.Declares update ∧
      previous.apply update = .ok (previous.after update)) := by
  unfold apply
  by_cases late : update.worldTime ≤ previous.worldTime
  · exact .inl ⟨late, if_pos late⟩
  · have newer : previous.worldTime < update.worldTime := Int64.not_le.mp late
    rw [if_neg late]
    cases stray : update.rooms.keys.find? fun room => !previous.topology.contains room with
    | some room =>
        refine .inr (.inl ⟨newer, fun declared => ?_, room, rfl⟩)
        have undeclared := List.find?_some stray
        have named := List.mem_of_find?_eq_some stray
        simp [Topology.contains, declared room named] at undeclared
    | none =>
        refine .inr (.inr ⟨newer, fun room named => ?_, rfl⟩)
        have found := List.find?_eq_none.mp stray room named
        simpa [Topology.contains] using found

theorem apply_eq_ok_iff {previous next : Snapshot} {update : Update} :
    previous.apply update = .ok next ↔
      previous.worldTime < update.worldTime ∧ previous.Declares update ∧
        next = previous.after update := by
  rcases apply_cases previous update with ⟨late, h⟩ | ⟨-, undeclared, room, h⟩ |
    ⟨newer, declared, h⟩
  · rw [h]
    constructor
    · intro applied
      cases applied
    · rintro ⟨newer, -, -⟩
      exact absurd late (Int64.not_le.mpr newer)
  · rw [h]
    constructor
    · intro applied
      cases applied
    · rintro ⟨-, declared, -⟩
      exact absurd declared undeclared
  · rw [h]
    constructor
    · intro same
      exact ⟨newer, declared, (Except.ok.inj same).symm⟩
    · rintro ⟨-, -, rfl⟩
      rfl

/-- A room that the update names has the collections of the update, any other keeps its own. -/
theorem room?_after (previous : Snapshot) (update : Update) (room : RoomId) :
    (previous.after update).room? room =
      (update.rooms.find? room).or (previous.room? room) := by
  show (update.rooms.entries.foldl (fun m e => m.insert e.1 e.2)
    (previous.entities.getD .empty)).find? room = _
  rw [RoomMap.find?_overlay]
  -- A snapshot without entities counts as one in which every room is unknown.
  cases h : previous.entities <;> simp [room?, h]

/-! ## Rooms of a snapshot -/

theorem roomObjects_of_none {s : Snapshot} (h : s.entities = none) (room : RoomId) :
    s.roomObjects room = .error .notInitialized := by
  rw [roomObjects, h]

/-- Once there are entities, every room can be looked up. -/
theorem exists_roomObjects {s : Snapshot} (h : s.entities.isSome) (room : RoomId) :
    ∃ view, s.roomObjects room = .ok view := by
  obtain ⟨entities, known⟩ := Option.isSome_iff_exists.mp h
  exact ⟨_, by rw [roomObjects, known]⟩

/-- What is found has the name of the room, the time of the snapshot and what it records of the
room. -/
theorem view_of_roomObjects {s : Snapshot} {room : RoomId} {view : RoomObjects}
    (found : s.roomObjects room = .ok view) :
    view.room = room ∧ view.time = s.worldTime ∧ view.payload = (s.room? room).getD .none := by
  cases known : s.entities with
  | none =>
      rw [roomObjects_of_none known] at found
      cases found
  | some entities =>
      rw [roomObjects, known] at found
      cases found
      rw [room?, known]
      exact ⟨rfl, rfl, rfl⟩

/-- The latest snapshot has a view of every room, or there are no entities to be had. -/
theorem latestObjects_cases (latest : Option Snapshot) (room : RoomId) :
    (∃ s view, latest = some s ∧ s.roomObjects room = .ok view ∧
      latestObjects latest room = .ok view) ∨
    ((∀ s, latest = some s → s.entities = none) ∧
      latestObjects latest room = .error .notInitialized) := by
  cases latest with
  | none => exact .inr ⟨nofun, rfl⟩
  | some s =>
      cases known : s.entities with
      | none =>
          refine .inr ⟨fun _ h => ?_, roomObjects_of_none known room⟩
          cases h
          exact known
      | some entities =>
          obtain ⟨view, found⟩ := exists_roomObjects (s := s) (by rw [known]; rfl) room
          exact .inl ⟨s, view, rfl, found, found⟩

/-! ## The order of publication -/

/-- `a` comes before `b`: in an earlier session, or in the same one at an earlier time. -/
def Before (a b : Snapshot) : Prop :=
  a.session < b.session ∨ a.session = b.session ∧ a.worldTime < b.worldTime

instance (a b : Snapshot) : Decidable (a.Before b) :=
  inferInstanceAs (Decidable (_ ∨ _ ∧ _))

theorem Before.trans {a b c : Snapshot} (hab : a.Before b) (hbc : b.Before c) : a.Before c := by
  rcases hab with ab | ⟨ab, ab'⟩ <;> rcases hbc with bc | ⟨bc, bc'⟩
  · exact .inl (UInt64.lt_trans ab bc)
  · exact .inl (bc ▸ ab)
  · exact .inl (ab ▸ bc)
  · exact .inr ⟨ab.trans bc, Int64.lt_trans ab' bc'⟩

theorem Before.irrefl (a : Snapshot) : ¬a.Before a := by
  rintro (h | ⟨-, h⟩)
  · exact UInt64.lt_irrefl _ h
  · exact Int64.lt_irrefl h

theorem before_after {previous : Snapshot} {update : Update}
    (newer : previous.worldTime < update.worldTime) : previous.Before (previous.after update) :=
  .inr ⟨rfl, newer⟩

/-! ## Sound snapshots -/

/-- The room list has no duplicate, and layout and entities are about listed rooms only. -/
structure IsSound (s : Snapshot) : Prop where
  rooms : s.topology.rooms.Nodup
  layout : ∀ room ∈ s.topology.layout.keys, room ∈ s.topology.rooms
  entities : ∀ m, s.entities = some m → ∀ room ∈ m.keys, room ∈ s.topology.rooms

theorem isSound_initial {b : Bootstrap} (h : b.IsSound) (session : UInt64) :
    IsSound { initial b with session } where
  rooms := h.rooms
  layout := h.layout
  entities _ none := by cases none

theorem IsSound.after {previous : Snapshot} {update : Update} (h : previous.IsSound)
    (declared : previous.Declares update) : (previous.after update).IsSound where
  rooms := h.rooms
  layout := h.layout
  entities := by
    intro m hm room hr
    cases Option.some.inj hm
    rw [RoomMap.mem_keys_iff, RoomMap.find?_overlay] at hr
    cases named : update.rooms.find? room with
    | some collections =>
        refine declared room ((RoomMap.mem_keys_iff _ _).mpr ?_)
        rw [named]
        exact Option.some_ne_none collections
    | none =>
        rw [named, Option.none_or] at hr
        cases known : previous.entities with
        | none =>
            rw [known] at hr
            exact absurd rfl hr
        | some old =>
            rw [known] at hr
            exact h.entities old known room ((RoomMap.mem_keys_iff _ _).mpr hr)

end Snapshot
end HexWorld
