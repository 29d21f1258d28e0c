import HexWorld.Proofs.World.Bootstrap

/-!
# `Proofs.World.Update` — what a checked message says about each room

A message groups entities by category and then by room; an update groups them by room. The three
categories are filed one after the other into one map, so what the map holds for a room in the end
is put together from up to three passes. `find?_of_ofMessage` says in one equation what that is.

## Contents
- `membersOf`, `EntitiesMessage.named` and `EntitiesMessage.collections`: what a message says about
  a room, read off the message alone.
- `find?_file`: one pass.
- `ofMessage_eq`, `ofMessage_eq_ok_iff`: the checks of a message in their order.
- `exists_ofMessage_iff`: the messages that pass them.
- `worldTime_of_ofMessage`, `diagnostics_of_ofMessage`, `find?_of_ofMessage`.
- `Lists`, `Regroups`: what it is for an update to say what a message says, category by category and
  room by room; `Refuses`: the failures of a message, in the order of the checks.
- `ofMessage_eq_ok_iff_regroups`, `ofMessage_eq_error_iff`, `Reorders.ofMessage_eq_ok_iff`.
- `checks_and_regroups`.
-/

namespace HexWorld

open Update (groupRoom)

/-! ## Messages, room by room -/

/-- The members that a category lists for a room; none if it does not list the room. -/
def membersOf {α : Type} (room : RoomId) (groups : List (RoomGroup α)) : List α :=
  ((groups.find? (groupRoom · = room)).map (·.members)).getD []

namespace EntitiesMessage

/-- The rooms that the categories list. -/
def named (m : EntitiesMessage) : List RoomId :=
  m.bots.map groupRoom ++ m.structures.map groupRoom ++ m.resources.map groupRoom

/-- What the categories list for a room. -/
def collections (m : EntitiesMessage) (room : RoomId) : RoomEntities :=
  ⟨membersOf room m.bots, membersOf room m.structures, membersOf room m.resources⟩

end EntitiesMessage

theorem membersOf_of_not_mem {α : Type} {room : RoomId} {groups : List (RoomGroup α)}
    (h : room ∉ groups.map groupRoom) : membersOf room groups = [] := by
  have absent : groups.find? (groupRoom · = room) = none := by
    rw [List.find?_eq_none]
    intro g hg same
    exact h (List.mem_map.mpr ⟨g, hg, of_decide_eq_true same⟩)
  rw [membersOf, absent]
  rfl

namespace Update

/-! ## One category -/

theorem find?_foldl_file {α : Type} (put : RoomEntities → List α → RoomEntities)
    {groups : List (RoomGroup α)} (nodup : (groups.map groupRoom).Nodup)
    (rooms : RoomMap RoomEntities) (room : RoomId) :
    (groups.foldl (fun rooms group =>
        rooms.insert (groupRoom group)
          (put ((rooms.find? (groupRoom group)).getD .none) group.members)) rooms).find? room =
      if room ∈ groups.map groupRoom then
        some (put ((rooms.find? room).getD .none) (membersOf room groups))
      else rooms.find? room := by
  induction groups generalizing rooms with
  | nil => rfl
  | cons g rest ih =>
      obtain ⟨fresh, rest_nodup⟩ := List.nodup_cons.mp nodup
      rw [List.foldl_cons, ih rest_nodup, RoomMap.find?_insert]
      by_cases same : groupRoom g = room
      · -- The category lists the room here and nowhere else.
        subst same
        have members : membersOf (groupRoom g) (g :: rest) = g.members := by simp [membersOf]
        rw [if_neg fresh, if_pos rfl, if_pos (by simp), members]
      · have members : membersOf room (g :: rest) = membersOf room rest := by
          simp [membersOf, same]
        have listed : room ∈ (g :: rest).map groupRoom ↔ room ∈ rest.map groupRoom := by
          rw [List.map_cons, List.mem_cons]
          exact or_iff_right (Ne.symm same)
        rw [if_neg same, members]
        simp only [listed]

/-- **One pass.** The rooms that the category lists get its members, all others stay. -/
theorem find?_file {α : Type} {category : String} {put : RoomEntities → List α → RoomEntities}
    {groups : List (RoomGroup α)} {rooms filed : RoomMap RoomEntities}
    (h : file category put groups rooms = .ok filed) (room : RoomId) :
    filed.find? room =
      if room ∈ groups.map groupRoom then
        some (put ((rooms.find? room).getD .none) (membersOf room groups))
      else rooms.find? room := by
  unfold file at h
  cases repeated : firstRepeated? (groups.map groupRoom) with
  | some twice =>
      rw [repeated] at h
      cases h
  | none =>
      -- The category has passed, so it lists each room once.
      rw [repeated] at h
      cases h
      exact find?_foldl_file put ((firstRepeated?_eq_none_iff _).mp repeated) rooms room

/-! ## The whole message -/

/-- The checks of a message in their order. -/
theorem ofMessage_eq (m : EntitiesMessage) :
    ofMessage m =
      if 0x8000000000000000 ≤ m.worldTime.toNat then
        .error (.protocol
          s!"worldTime {m.worldTime.toNat} out of range: {Text.IntegerFault.tooLarge.message}")
      else
        (file "bots" (fun e bots => { e with bots }) m.bots .empty).bind fun first =>
        (file "structures" (fun e structures => { e with structures }) m.structures first).bind
          fun second =>
        (file "resources" (fun e resources => { e with resources }) m.resources second).bind
          fun rooms => .ok ⟨.ofInt m.worldTime.toNat, rooms, m.diagnostics⟩ := by
  unfold ofMessage
  split <;> rfl

theorem bind_eq_ok_iff {ε α γ : Type} {x : Except ε α} {f : α → Except ε γ} {c : γ} :
    x.bind f = .ok c ↔ ∃ a, x = .ok a ∧ f a = .ok c := by
  cases x with
  | error e =>
      constructor
      · intro h
        cases h
      · rintro ⟨a, h, -⟩
        cases h
  | ok a =>
      constructor
      · intro h
        exact ⟨a, rfl, h⟩
      · rintro ⟨b, h, hb⟩
        cases h
        exact hb

variable {m : EntitiesMessage} {u : Update}

/-- A valid message has a time within the signed range, and its categories can be filed one after
the other. -/
theorem ofMessage_eq_ok_iff :
    ofMessage m = .ok u ↔
      m.worldTime.toNat < 0x8000000000000000 ∧
      ∃ first second rooms,
        file "bots" (fun e bots => { e with bots }) m.bots .empty = .ok first ∧
        file "structures" (fun e structures => { e with structures }) m.structures first =
          .ok second ∧
        file "resources" (fun e resources => { e with resources }) m.resources second =
          .ok rooms ∧
        u = ⟨.ofInt m.worldTime.toNat, rooms, m.diagnostics⟩ := by
  rw [ofMessage_eq]
  by_cases large : 0x8000000000000000 ≤ m.worldTime.toNat
  · rw [if_pos large]
    constructor
    · intro h
      cases h
    · rintro ⟨small, -⟩
      exact absurd large (Nat.not_le.mpr small)
  · rw [if_neg large]
    simp only [bind_eq_ok_iff, Except.ok.injEq]
    constructor
    · rintro ⟨first, bots, second, structures, rooms, resources, rfl⟩
      exact ⟨Nat.not_le.mp large, first, second, rooms, bots, structures, resources, rfl⟩
    · rintro ⟨-, first, second, rooms, bots, structures, resources, rfl⟩
      exact ⟨first, bots, second, structures, rooms, resources, rfl⟩

/-- A category is filed unless it lists a room twice. -/
theorem exists_file_iff {α : Type} {category : String} {put : RoomEntities → List α → RoomEntities}
    {groups : List (RoomGroup α)} {rooms : RoomMap RoomEntities} :
    (∃ filed, file category put groups rooms = .ok filed) ↔ (groups.map groupRoom).Nodup := by
  rw [← firstRepeated?_eq_none_iff]
  unfold file
  cases firstRepeated? (groups.map groupRoom) <;> simp

/-- **The messages that pass the check**: their time is a signed number, and no category lists a
room twice. -/
theorem exists_ofMessage_iff :
    (∃ u, ofMessage m = .ok u) ↔ m.worldTime.toNat < 0x8000000000000000 ∧
      (m.bots.map groupRoom).Nodup ∧ (m.structures.map groupRoom).Nodup ∧
      (m.resources.map groupRoom).Nodup := by
  constructor
  · rintro ⟨u, h⟩
    obtain ⟨small, first, second, rooms, bots, structures, resources, -⟩ :=
      ofMessage_eq_ok_iff.mp h
    exact ⟨small, exists_file_iff.mp ⟨first, bots⟩, exists_file_iff.mp ⟨second, structures⟩,
      exists_file_iff.mp ⟨rooms, resources⟩⟩
  · rintro ⟨small, bots, structures, resources⟩
    obtain ⟨first, bots⟩ := exists_file_iff.mpr bots
    obtain ⟨second, structures⟩ := exists_file_iff.mpr structures
    obtain ⟨rooms, resources⟩ := exists_file_iff.mpr resources
    exact ⟨_, ofMessage_eq_ok_iff.mpr
      ⟨small, first, second, rooms, bots, structures, resources, rfl⟩⟩

/-- The time of an update is that of the message, and so never before the first tick. -/
theorem worldTime_of_ofMessage (h : ofMessage m = .ok u) :
    u.worldTime.toInt = m.worldTime.toNat := by
  obtain ⟨small, _, _, _, _, _, _, rfl⟩ := ofMessage_eq_ok_iff.mp h
  exact Int64.toInt_ofInt_of_le (by omega) (by omega)

theorem diagnostics_of_ofMessage (h : ofMessage m = .ok u) : u.diagnostics = m.diagnostics := by
  obtain ⟨_, _, _, _, _, _, _, rfl⟩ := ofMessage_eq_ok_iff.mp h
  rfl

/-- **What an update holds for a room**: what the categories list for it, if one of them does. -/
theorem find?_of_ofMessage (h : ofMessage m = .ok u) (room : RoomId) :
    u.rooms.find? room = if room ∈ m.named then some (m.collections room) else none := by
  obtain ⟨-, first, second, rooms, bots, structures, resources, rfl⟩ := ofMessage_eq_ok_iff.mp h
  show rooms.find? room = _
  rw [find?_file resources, find?_file structures, find?_file bots, RoomMap.find?_empty]
  -- Each category counts for itself: one that does not list the room has no members for it.
  by_cases hb : room ∈ m.bots.map groupRoom <;>
    by_cases hs : room ∈ m.structures.map groupRoom <;>
    by_cases hr : room ∈ m.resources.map groupRoom <;>
    simp [EntitiesMessage.named, EntitiesMessage.collections, RoomEntities.none,
      membersOf_of_not_mem, hb, hs, hr]

theorem mem_keys_of_ofMessage (h : ofMessage m = .ok u) (room : RoomId) :
    room ∈ u.rooms.keys ↔ room ∈ m.named := by
  rw [RoomMap.mem_keys_iff, find?_of_ofMessage h]
  by_cases named : room ∈ m.named <;> simp [named]

/-! ## The same, read off the groups -/

/-- A category lists these members for the room, or does not list the room and there are none. -/
def Lists {α : Type} (groups : List (RoomGroup α)) (room : RoomId) (members : List α) : Prop :=
  (∃ g ∈ groups, groupRoom g = room ∧ g.members = members) ∨
    room ∉ groups.map groupRoom ∧ members = []

theorem lists_iff {α : Type} {groups : List (RoomGroup α)}
    (nodup : (groups.map groupRoom).Nodup) {room : RoomId} {members : List α} :
    Lists groups room members ↔ members = membersOf room groups := by
  induction groups with
  | nil => simp [Lists, membersOf]
  | cons g rest ih =>
      obtain ⟨fresh, rest_nodup⟩ := List.nodup_cons.mp nodup
      by_cases same : groupRoom g = room
      · subst same
        have found : membersOf (groupRoom g) (g :: rest) = g.members := by simp [membersOf]
        rw [found]
        constructor
        · rintro (⟨g', hg', same, rfl⟩ | ⟨absent, -⟩)
          · rcases List.mem_cons.mp hg' with rfl | later
            · rfl
            · exact absurd (List.mem_map.mpr ⟨g', later, same⟩) fresh
          · exact absurd List.mem_cons_self absent
        · rintro rfl
          exact .inl ⟨g, List.mem_cons_self, rfl, rfl⟩
      · have passed : membersOf room (g :: rest) = membersOf room rest := by simp [membersOf, same]
        rw [passed, ← ih rest_nodup]
        simp [Lists, same, Ne.symm same]

/-- The update says what the message says: its time and its figures, and for each room that a
category lists, what each of them lists. -/
structure Regroups (m : EntitiesMessage) (u : Update) : Prop where
  worldTime : u.worldTime.toInt = m.worldTime.toNat
  diagnostics : u.diagnostics = m.diagnostics
  rooms : ∀ room, room ∈ u.rooms.keys ↔
    room ∈ m.bots.map groupRoom ∨ room ∈ m.structures.map groupRoom ∨
      room ∈ m.resources.map groupRoom
  collections : ∀ room e, u.rooms.find? room = some e →
    Lists m.bots room e.bots ∧ Lists m.structures room e.structures ∧
      Lists m.resources room e.resources

/-- The message passes the checks. -/
structure IsAccepted (m : EntitiesMessage) : Prop where
  time : m.worldTime.toNat ≤ 0x7FFFFFFFFFFFFFFF
  bots : (m.bots.map groupRoom).Nodup
  structures : (m.structures.map groupRoom).Nodup
  resources : (m.resources.map groupRoom).Nodup

theorem exists_ofMessage_iff_isAccepted : (∃ u, ofMessage m = .ok u) ↔ IsAccepted m := by
  rw [exists_ofMessage_iff]
  constructor
  · rintro ⟨small, bots, structures, resources⟩
    exact ⟨by omega, bots, structures, resources⟩
  · rintro ⟨small, bots, structures, resources⟩
    exact ⟨by omega, bots, structures, resources⟩

theorem mem_named_iff {room : RoomId} :
    room ∈ m.named ↔ room ∈ m.bots.map groupRoom ∨ room ∈ m.structures.map groupRoom ∨
      room ∈ m.resources.map groupRoom := by
  rw [EntitiesMessage.named, List.mem_append, List.mem_append, or_assoc]

theorem regroups_of_ofMessage (h : ofMessage m = .ok u) : Regroups m u := by
  have accepted : IsAccepted m := exists_ofMessage_iff_isAccepted.mp ⟨u, h⟩
  refine ⟨worldTime_of_ofMessage h, diagnostics_of_ofMessage h, ?_, ?_⟩
  · intro room
    rw [mem_keys_of_ofMessage h, mem_named_iff]
  · intro room e found
    rw [find?_of_ofMessage h] at found
    split at found
    · cases found
      rw [lists_iff accepted.bots, lists_iff accepted.structures, lists_iff accepted.resources]
      exact ⟨rfl, rfl, rfl⟩
    · cases found

/-- What a message says is one update only. -/
theorem Regroups.unique {v : Update} (accepted : IsAccepted m) (hu : Regroups m u)
    (hv : Regroups m v) : u = v := by
  have time : u.worldTime = v.worldTime := by
    rw [← Int64.toInt_inj, hu.worldTime, hv.worldTime]
  have rooms : u.rooms = v.rooms := by
    ext1 room
    have keys : room ∈ u.rooms.keys ↔ room ∈ v.rooms.keys := by rw [hu.rooms, hv.rooms]
    rw [RoomMap.mem_keys_iff, RoomMap.mem_keys_iff] at keys
    cases found : u.rooms.find? room with
    | none => simpa [found, eq_comm] using keys
    | some e =>
        obtain ⟨f, found'⟩ := Option.ne_none_iff_exists'.mp (keys.mp (by simp [found]))
        have he := hu.collections room e found
        have hf := hv.collections room f found'
        rw [lists_iff accepted.bots, lists_iff accepted.structures,
          lists_iff accepted.resources] at he hf
        obtain ⟨bots, structures, resources⟩ := e
        obtain ⟨bots', structures', resources'⟩ := f
        simp only at he hf
        rw [found', he.1, he.2.1, he.2.2, hf.1, hf.2.1, hf.2.2]
  have diagnostics : u.diagnostics = v.diagnostics := by rw [hu.diagnostics, hv.diagnostics]
  obtain ⟨_, _, _⟩ := u
  obtain ⟨_, _, _⟩ := v
  simp_all only

/-- **A message is read** as the one update that says what it says, if it passes the checks. -/
theorem ofMessage_eq_ok_iff_regroups : ofMessage m = .ok u ↔ IsAccepted m ∧ Regroups m u := by
  constructor
  · intro h
    exact ⟨exists_ofMessage_iff_isAccepted.mp ⟨u, h⟩, regroups_of_ofMessage h⟩
  · rintro ⟨accepted, hu⟩
    obtain ⟨v, h⟩ := exists_ofMessage_iff_isAccepted.mpr accepted
    rw [h, hu.unique accepted (regroups_of_ofMessage h)]

/-! ## Refusals -/

/-- The failure for a room that a category lists twice. -/
def listedTwice (category : String) (room : RoomId) : SourceError :=
  .protocol s!"room {room.text} listed twice in {category} of one tick"

/-- The failures of a message: its time is looked at before its categories, and each of them after
the ones before it have passed. -/
inductive Refuses (m : EntitiesMessage) : SourceError → Prop where
  | time (large : 0x7FFFFFFFFFFFFFFF < m.worldTime.toNat) :
      Refuses m (.protocol
        s!"worldTime {m.worldTime.toNat} out of range: {Text.IntegerFault.tooLarge.message}")
  | bots {room} (time : m.worldTime.toNat ≤ 0x7FFFFFFFFFFFFFFF)
      (again : FirstRepeat (m.bots.map groupRoom) room) : Refuses m (listedTwice "bots" room)
  | structures {room} (time : m.worldTime.toNat ≤ 0x7FFFFFFFFFFFFFFF)
      (bots : (m.bots.map groupRoom).Nodup)
      (again : FirstRepeat (m.structures.map groupRoom) room) :
      Refuses m (listedTwice "structures" room)
  | resources {room} (time : m.worldTime.toNat ≤ 0x7FFFFFFFFFFFFFFF)
      (bots : (m.bots.map groupRoom).Nodup) (structures : (m.structures.map groupRoom).Nodup)
      (again : FirstRepeat (m.resources.map groupRoom) room) :
      Refuses m (listedTwice "resources" room)

/-- The messages differ in the order of the groups within each category only. -/
structure Reorders (m m' : EntitiesMessage) : Prop where
  worldTime : m.worldTime = m'.worldTime
  bots : m.bots.Perm m'.bots
  structures : m.structures.Perm m'.structures
  resources : m.resources.Perm m'.resources
  diagnostics : m.diagnostics = m'.diagnostics

namespace Reorders

variable {m' : EntitiesMessage}

theorem symm (h : Reorders m m') : Reorders m' m :=
  ⟨h.worldTime.symm, h.bots.symm, h.structures.symm, h.resources.symm, h.diagnostics.symm⟩

theorem lists {α : Type} {groups groups' : List (RoomGroup α)} (h : groups.Perm groups')
    {room : RoomId} {members : List α} :
    Lists groups room members ↔ Lists groups' room members := by
  simp only [Lists, h.mem_iff, (h.map groupRoom).mem_iff]

theorem isAccepted (h : Reorders m m') (accepted : IsAccepted m) : IsAccepted m' where
  time := h.worldTime ▸ accepted.time
  bots := (h.bots.map groupRoom).nodup_iff.mp accepted.bots
  structures := (h.structures.map groupRoom).nodup_iff.mp accepted.structures
  resources := (h.resources.map groupRoom).nodup_iff.mp accepted.resources

theorem regroups (h : Reorders m m') (hu : Regroups m u) : Regroups m' u where
  worldTime := by rw [hu.worldTime, h.worldTime]
  diagnostics := by rw [hu.diagnostics, h.diagnostics]
  rooms room := by
    rw [hu.rooms, (h.bots.map groupRoom).mem_iff, (h.structures.map groupRoom).mem_iff,
      (h.resources.map groupRoom).mem_iff]
  collections room e found := by
    obtain ⟨bots, structures, resources⟩ := hu.collections room e found
    exact ⟨(lists h.bots).mp bots, (lists h.structures).mp structures,
      (lists h.resources).mp resources⟩

/-- **The order of the groups is of no account.** -/
theorem ofMessage_eq_ok_iff (h : Reorders m m') : ofMessage m = .ok u ↔ ofMessage m' = .ok u := by
  have passes {m m' : EntitiesMessage} (h : Reorders m m') (read : ofMessage m = .ok u) :
      ofMessage m' = .ok u := by
    obtain ⟨accepted, hu⟩ := ofMessage_eq_ok_iff_regroups.mp read
    exact ofMessage_eq_ok_iff_regroups.mpr ⟨h.isAccepted accepted, h.regroups hu⟩
  exact ⟨passes h, passes h.symm⟩

end Reorders

/-! ## Messages -/

end Update
end HexWorld
