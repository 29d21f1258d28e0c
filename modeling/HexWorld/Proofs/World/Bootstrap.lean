import HexWorld.World.Update

/-!
# `Proofs.World.Bootstrap` — what a checked description of the world guarantees

A description that passes the checks lists no room twice and places listed rooms only, so every
snapshot that starts from it can take its room list as a set and its layout as a part of that set.
Rooms are placed one by one, on top of those that have been placed; what a description means, and
which of its placements is refused, is said here without that order of work.

## Contents
- `firstRepeated?_eq_none_iff`: the search for a repeated item finds none exactly in a list without
  duplicates.
- `FirstRepeat`, `firstRepeated?_eq_some_iff`: the item that it finds.
- `mem_of_place`: the rooms of a checked layout are declared.
- `Placeable`, `exists_place_iff`, `place_eq_error_iff` and `find?_of_place`: the placements that
  can be made, the first that cannot, and what the layout holds in the end.
- `Bootstrap.ofReplies_eq`: the checks in their order.
- `Bootstrap.IsSound` and `isSound_of_ofReplies`.
- `IsAccepted`, `Describes`, `Refuses`: what the replies have to be like, what they mean, and how
  they fail; `ofReplies_eq_ok_iff`, `ofReplies_eq_error_iff`, `ofReplies_eq_ok_iff_of_perm`.
-/

namespace HexWorld

/-! ## Repeated items -/

section Repeated

variable {α : Type} [DecidableEq α]

theorem firstRepeatedAfter_eq_none_iff (seen items : List α) :
    firstRepeatedAfter seen items = none ↔ items.Nodup ∧ ∀ a ∈ items, a ∉ seen := by
  -- The rest is searched with one more item among those seen.
  induction items generalizing seen with
  | nil => simp [firstRepeatedAfter]
  | cons a rest ih =>
      rw [firstRepeatedAfter]
      by_cases known : a ∈ seen
      · rw [if_pos known]
        constructor
        · intro h
          cases h
        · intro h
          exact absurd known (h.2 a List.mem_cons_self)
      · rw [if_neg known, ih, List.nodup_cons]
        constructor
        · rintro ⟨nodup, apart⟩
          refine ⟨⟨fun again => apart a again List.mem_cons_self, nodup⟩, ?_⟩
          intro b hb
          rcases List.mem_cons.mp hb with rfl | hb
          · exact known
          · exact fun old => apart b hb (List.mem_cons_of_mem a old)
        · rintro ⟨⟨fresh, nodup⟩, apart⟩
          refine ⟨nodup, fun b hb old => ?_⟩
          rcases List.mem_cons.mp old with rfl | old
          · exact fresh hb
          · exact apart b (List.mem_cons_of_mem a hb) old

theorem firstRepeated?_eq_none_iff (items : List α) :
    firstRepeated? items = none ↔ items.Nodup := by
  unfold firstRepeated?
  rw [firstRepeatedAfter_eq_none_iff]
  simp

/-- The item is the first that stands in the list for the second time. -/
def FirstRepeat (items : List α) (a : α) : Prop :=
  ∃ before after, items = before ++ a :: after ∧ before.Nodup ∧ a ∈ before

theorem firstRepeatedAfter_eq_some_iff (seen items : List α) (a : α) :
    firstRepeatedAfter seen items = some a ↔
      ∃ before after, items = before ++ a :: after ∧ before.Nodup ∧
        (∀ b ∈ before, b ∉ seen) ∧ (a ∈ seen ∨ a ∈ before) := by
  induction items generalizing seen with
  | nil => simp [firstRepeatedAfter]
  | cons c rest ih =>
      rw [firstRepeatedAfter]
      by_cases known : c ∈ seen
      · rw [if_pos known]
        constructor
        · intro h
          obtain rfl : c = a := Option.some.inj h
          exact ⟨[], rest, rfl, List.nodup_nil, by simp, .inl known⟩
        · -- The first item is known already, so nothing stands before the one that is found.
          rintro ⟨before, after, split, -, apart, -⟩
          cases before with
          | nil => simp_all
          | cons b before =>
              obtain rfl : c = b := (List.cons.inj split).1
              exact absurd known (apart c List.mem_cons_self)
      · -- The first item is known from here on, whether it counts as seen or as standing before.
        have moved {before : List α} : a ∈ c :: seen ∨ a ∈ before ↔ a ∈ seen ∨ a ∈ c :: before := by
          rw [List.mem_cons, List.mem_cons, or_assoc, or_left_comm]
        rw [if_neg known, ih]
        constructor
        · rintro ⟨before, after, rfl, nodup, apart, again⟩
          have fresh : c ∉ before := fun hc => apart c hc List.mem_cons_self
          refine ⟨c :: before, after, rfl, List.nodup_cons.mpr ⟨fresh, nodup⟩, ?_, ?_⟩
          · intro b hb
            rcases List.mem_cons.mp hb with rfl | hb
            · exact known
            · exact fun old => apart b hb (List.mem_cons_of_mem c old)
          · exact moved.mp again
        · rintro ⟨before, after, split, nodup, apart, again⟩
          cases before with
          | nil =>
              obtain rfl : c = a := (List.cons.inj split).1
              simp [known] at again
          | cons b before =>
              obtain ⟨rfl, rfl⟩ := List.cons.inj split
              obtain ⟨fresh, nodup⟩ := List.nodup_cons.mp nodup
              refine ⟨before, after, rfl, nodup, ?_, ?_⟩
              · intro b hb old
                rcases List.mem_cons.mp old with rfl | old
                · exact fresh hb
                · exact apart b (List.mem_cons_of_mem c hb) old
              · exact moved.mpr again

theorem firstRepeated?_eq_some_iff (items : List α) (a : α) :
    firstRepeated? items = some a ↔ FirstRepeat items a := by
  unfold firstRepeated? FirstRepeat
  rw [firstRepeatedAfter_eq_some_iff]
  simp

end Repeated

/-! ## Placing rooms -/

/-- The room that is placed. -/
def RoomPlacement.roomId (p : RoomPlacement) : RoomId :=
  ⟨p.room⟩

namespace RoomMap

variable {α : Type}

theorem contains_iff (m : RoomMap α) (room : RoomId) : m.contains room = true ↔ room ∈ m.keys := by
  simp [contains, keys]

theorem mem_keys_insert (m : RoomMap α) (room : RoomId) (a : α) (other : RoomId) :
    other ∈ (m.insert room a).keys ↔ room = other ∨ other ∈ m.keys := by
  rw [mem_keys_iff, mem_keys_iff, find?_insert]
  by_cases same : room = other <;> simp [same]

end RoomMap

namespace Bootstrap

/-- The failure for a placement of a room that is not listed. -/
def placesUndeclared (room : RoomId) : SourceError :=
  .protocol s!"layout places undeclared room {room.text}"

/-- The failure for a second placement of a room. -/
def placesTwice (room : RoomId) : SourceError :=
  .protocol s!"layout places room {room.text} twice"

theorem place_cons (declared : List RoomId) (layout : RoomMap RoomPosition) (p : RoomPlacement)
    (rest : List RoomPlacement) :
    place declared layout (p :: rest) =
      if p.roomId ∉ declared then .error (placesUndeclared p.roomId)
      else if layout.contains p.roomId then .error (placesTwice p.roomId)
      else place declared (layout.insert p.roomId p.position) rest :=
  rfl

/-- The placements can be made on top of a layout. -/
structure Placeable (declared : List RoomId) (layout : RoomMap RoomPosition)
    (placements : List RoomPlacement) : Prop where
  listed : ∀ p ∈ placements, p.roomId ∈ declared
  free : ∀ p ∈ placements, p.roomId ∉ layout.keys
  once : (placements.map RoomPlacement.roomId).Nodup

variable {declared : List RoomId} {layout after : RoomMap RoomPosition}
  {placements : List RoomPlacement} {e : SourceError}

theorem Placeable.nil : Placeable declared layout [] :=
  ⟨List.forall_mem_nil _, List.forall_mem_nil _, List.nodup_nil⟩

/-- The first placement is made, and then the others on top of it. -/
theorem placeable_cons {p : RoomPlacement} :
    Placeable declared layout (p :: placements) ↔ p.roomId ∈ declared ∧ p.roomId ∉ layout.keys ∧
      Placeable declared (layout.insert p.roomId p.position) placements := by
  constructor
  · rintro ⟨listed, free, once⟩
    obtain ⟨fresh, once⟩ := List.nodup_cons.mp once
    refine ⟨listed p List.mem_cons_self, free p List.mem_cons_self,
      fun q hq => listed q (List.mem_cons_of_mem p hq), fun q hq => ?_, once⟩
    rw [RoomMap.mem_keys_insert]
    rintro (same | old)
    · exact fresh (same ▸ List.mem_map_of_mem hq)
    · exact free q (List.mem_cons_of_mem p hq) old
  · rintro ⟨known, unplaced, listed, free, once⟩
    have apart (q : RoomPlacement) (hq : q ∈ placements) :
        p.roomId ≠ q.roomId ∧ q.roomId ∉ layout.keys := by
      have new := free q hq
      rw [RoomMap.mem_keys_insert, not_or] at new
      exact new
    refine ⟨List.forall_mem_cons.mpr ⟨known, listed⟩,
      List.forall_mem_cons.mpr ⟨unplaced, fun q hq => (apart q hq).2⟩,
      List.nodup_cons.mpr ⟨fun again => ?_, once⟩⟩
    obtain ⟨q, hq, same⟩ := List.mem_map.mp again
    exact (apart q hq).1 same.symm

theorem exists_place_iff :
    (∃ after, place declared layout placements = .ok after) ↔
      Placeable declared layout placements := by
  induction placements generalizing layout with
  | nil => exact ⟨fun _ => .nil, fun _ => ⟨layout, rfl⟩⟩
  | cons p rest ih =>
      rw [place_cons, placeable_cons, ← ih, ← RoomMap.contains_iff]
      by_cases known : p.roomId ∈ declared <;> by_cases placed : layout.contains p.roomId = true <;>
        simp [known, placed]

/-- **A layout holds what is placed**, and what it held before. -/
theorem find?_of_place (h : place declared layout placements = .ok after) (room : RoomId)
    (position : RoomPosition) :
    after.find? room = some position ↔
      layout.find? room = some position ∨
        ∃ p ∈ placements, p.roomId = room ∧ p.position = position := by
  induction placements generalizing layout with
  | nil =>
      rw [place] at h
      cases h
      simp
  | cons p rest ih =>
      obtain ⟨-, unplaced, -⟩ := placeable_cons.mp (exists_place_iff.mp ⟨after, h⟩)
      rw [place_cons] at h
      split at h
      · cases h
      · split at h
        · cases h
        · rw [ih h, RoomMap.find?_insert]
          by_cases same : p.roomId = room
          · -- Nothing was held for the room that is placed here.
            subst same
            rw [RoomMap.mem_keys_iff, Decidable.not_not] at unplaced
            simp [unplaced]
          · simp [same]

/-- **The first placement that cannot be made** is of an undeclared room, or of one that has been
placed. -/
theorem place_eq_error_iff :
    place declared layout placements = .error e ↔
      ∃ before p later, placements = before ++ p :: later ∧ Placeable declared layout before ∧
        (p.roomId ∉ declared ∧ e = placesUndeclared p.roomId ∨
          p.roomId ∈ declared ∧ (p.roomId ∈ layout.keys ∨ p.roomId ∈ before.map RoomPlacement.roomId) ∧
            e = placesTwice p.roomId) := by
  induction placements generalizing layout with
  | nil => simp [place]
  | cons p rest ih =>
      -- A placement that is refused comes first, since nothing can be placed before it.
      have first (refused : ¬(p.roomId ∈ declared ∧ p.roomId ∉ layout.keys))
          {before later : List RoomPlacement} {q : RoomPlacement}
          (split : p :: rest = before ++ q :: later) (fine : Placeable declared layout before) :
          before = [] ∧ q = p := by
        cases before with
        | nil => exact ⟨rfl, (List.cons.inj split).1.symm⟩
        | cons b before =>
            obtain ⟨rfl, -⟩ := List.cons.inj split
            obtain ⟨known, unplaced, -⟩ := placeable_cons.mp fine
            exact absurd ⟨known, unplaced⟩ refused
      rw [place_cons]
      by_cases known : p.roomId ∈ declared
      · rw [if_neg (not_not_intro known)]
        by_cases placed : layout.contains p.roomId = true
        · rw [if_pos placed, Except.error.injEq]
          rw [RoomMap.contains_iff] at placed
          constructor
          · rintro rfl
            exact ⟨[], p, rest, rfl, .nil, .inr ⟨known, .inl placed, rfl⟩⟩
          · rintro ⟨before, q, later, split, fine, refusal⟩
            obtain ⟨rfl, rfl⟩ := first (fun h => h.2 placed) split fine
            rcases refusal with ⟨unknown, -⟩ | ⟨-, -, rfl⟩
            · exact absurd known unknown
            · rfl
        · rw [if_neg placed, ih]
          rw [RoomMap.contains_iff] at placed
          -- The room that is placed here is among those placed before all that follow.
          have moved {q : RoomPlacement} {before : List RoomPlacement} :
              q.roomId ∈ (layout.insert p.roomId p.position).keys ∨
                  q.roomId ∈ before.map RoomPlacement.roomId ↔
                q.roomId ∈ layout.keys ∨ q.roomId ∈ (p :: before).map RoomPlacement.roomId := by
            rw [RoomMap.mem_keys_insert, List.map_cons, List.mem_cons, eq_comm, or_assoc,
              or_left_comm]
          constructor
          · rintro ⟨before, q, later, rfl, fine, refusal⟩
            refine ⟨p :: before, q, later, rfl, placeable_cons.mpr ⟨known, placed, fine⟩, ?_⟩
            rw [moved] at refusal
            exact refusal
          · rintro ⟨before, q, later, split, fine, refusal⟩
            cases before with
            | nil =>
                obtain ⟨rfl, -⟩ := List.cons.inj split
                simp [known, placed] at refusal
            | cons b before =>
                obtain ⟨rfl, rfl⟩ := List.cons.inj split
                rw [← moved] at refusal
                exact ⟨before, q, later, rfl, (placeable_cons.mp fine).2.2, refusal⟩
      · rw [if_pos known, Except.error.injEq]
        constructor
        · rintro rfl
          exact ⟨[], p, rest, rfl, .nil, .inl ⟨known, rfl⟩⟩
        · rintro ⟨before, q, later, split, fine, refusal⟩
          obtain ⟨rfl, rfl⟩ := first (fun h => known h.1) split fine
          rcases refusal with ⟨-, rfl⟩ | ⟨listed, -⟩
          · rfl
          · exact absurd listed known

end Bootstrap

/-! ## Descriptions -/

namespace Bootstrap

/-- Placing rooms adds declared rooms only. -/
theorem mem_of_place {declared : List RoomId} {placements : List RoomPlacement}
    {before after : RoomMap RoomPosition} (h : place declared before placements = .ok after)
    {room : RoomId} (placed : room ∈ after.keys) : room ∈ declared ∨ room ∈ before.keys := by
  induction placements generalizing before with
  | nil =>
      rw [place] at h
      cases h
      exact .inr placed
  | cons p rest ih =>
      rw [place] at h
      split at h
      · cases h
      next known =>
        split at h
        · cases h
        · rcases ih h with listed | old
          · exact .inl listed
          · rw [RoomMap.mem_keys_iff, RoomMap.find?_insert] at old
            split at old
            -- The room that is placed here has passed the check, others were placed before.
            next same => exact .inl (same ▸ Decidable.not_not.mp known)
            next => exact .inr ((RoomMap.mem_keys_iff _ _).mpr old)

/-- The rooms of a room list, in the order of the source. -/
def listed (list : RoomList) : List RoomId :=
  list.roomIds.map RoomId.mk

/-- The failure for a room that is listed a second time. -/
def listsTwice (room : RoomId) : SourceError :=
  .protocol s!"room {room.text} listed twice by ListRooms"

/-- The two checks, one after the other. -/
theorem ofReplies_eq (list : RoomList) (reply : LayoutReply) :
    ofReplies list reply =
      match firstRepeated? (listed list) with
      | some room => .error (listsTwice room)
      | none => (place (listed list) .empty reply.positions).map (Bootstrap.mk (listed list)) := by
  unfold ofReplies listed
  dsimp only
  cases firstRepeated? (list.roomIds.map RoomId.mk) <;> rfl

/-- No room is listed twice, and only listed rooms are placed. -/
structure IsSound (b : Bootstrap) : Prop where
  rooms : b.rooms.Nodup
  layout : ∀ room ∈ b.layout.keys, room ∈ b.rooms

/-- **What passes the checks is sound.** -/
theorem isSound_of_ofReplies {list : RoomList} {reply : LayoutReply} {b : Bootstrap}
    (h : ofReplies list reply = .ok b) : b.IsSound := by
  rw [ofReplies_eq] at h
  cases repeated : firstRepeated? (listed list) with
  | some room =>
      rw [repeated] at h
      cases h
  | none =>
      rw [repeated] at h
      cases placed : place (listed list) .empty reply.positions with
      | error e =>
          rw [placed] at h
          cases h
      | ok layout =>
          rw [placed] at h
          cases h
          refine ⟨(firstRepeated?_eq_none_iff _).mp repeated, fun room hr => ?_⟩
          rcases mem_of_place placed hr with listed | old
          · exact listed
          · cases old

/-! ## What the replies say -/

/-- The replies pass the checks. -/
structure IsAccepted (list : RoomList) (reply : LayoutReply) : Prop where
  rooms : (listed list).Nodup
  declared : ∀ p ∈ reply.positions, p.roomId ∈ listed list
  once : (reply.positions.map RoomPlacement.roomId).Nodup

/-- The description says what the replies say: which rooms there are, and where the placed ones
are. -/
structure Describes (list : RoomList) (reply : LayoutReply) (b : Bootstrap) : Prop where
  rooms : b.rooms = listed list
  layout : ∀ room position, b.layout.find? room = some position ↔
    ∃ p ∈ reply.positions, p.roomId = room ∧ p.position = position

/-- The failures of the replies: the room list is looked at before the layout, and each placement
after those before it have passed. -/
inductive Refuses (list : RoomList) (reply : LayoutReply) : SourceError → Prop where
  | repeated {room} (again : FirstRepeat (listed list) room) :
      Refuses list reply (listsTwice room)
  | undeclared {before p later} (split : reply.positions = before ++ p :: later)
      (fine : IsAccepted list ⟨before⟩) (unknown : p.roomId ∉ listed list) :
      Refuses list reply (placesUndeclared p.roomId)
  | twice {before p later} (split : reply.positions = before ++ p :: later)
      (fine : IsAccepted list ⟨before⟩) (known : p.roomId ∈ listed list)
      (again : p.roomId ∈ before.map RoomPlacement.roomId) :
      Refuses list reply (placesTwice p.roomId)

variable {list : RoomList} {reply : LayoutReply} {b : Bootstrap}

theorem isAccepted_iff : IsAccepted list reply ↔
    (listed list).Nodup ∧ Placeable (listed list) .empty reply.positions := by
  constructor
  · rintro ⟨rooms, declared, once⟩
    exact ⟨rooms, declared, fun _ _ => List.not_mem_nil, once⟩
  · rintro ⟨rooms, declared, -, once⟩
    exact ⟨rooms, declared, once⟩

theorem exists_ofReplies_iff : (∃ b, ofReplies list reply = .ok b) ↔ IsAccepted list reply := by
  rw [isAccepted_iff, ← exists_place_iff, ← firstRepeated?_eq_none_iff, ofReplies_eq]
  cases firstRepeated? (listed list) with
  | some room => simp
  | none => cases place (listed list) .empty reply.positions <;> simp [Except.map]

theorem describes_of_ofReplies (h : ofReplies list reply = .ok b) : Describes list reply b := by
  rw [ofReplies_eq] at h
  split at h
  · cases h
  · cases placed : place (listed list) .empty reply.positions with
    | error e =>
        rw [placed] at h
        cases h
    | ok layout =>
        rw [placed] at h
        cases h
        refine ⟨rfl, fun room position => ?_⟩
        rw [find?_of_place placed]
        simp

/-- What the replies say is one description only. -/
theorem Describes.unique {b' : Bootstrap} (h : Describes list reply b)
    (h' : Describes list reply b') : b = b' := by
  have rooms : b.rooms = b'.rooms := h.rooms.trans h'.rooms.symm
  have layout : b.layout = b'.layout := by
    ext1 room
    ext position
    rw [h.layout, h'.layout]
  cases b
  cases b'
  exact Bootstrap.mk.injEq _ _ _ _ ▸ ⟨rooms, layout⟩

/-- **The replies are read** as the one description that says what they say, if they pass the
checks. -/
theorem ofReplies_eq_ok_iff :
    ofReplies list reply = .ok b ↔ IsAccepted list reply ∧ Describes list reply b := by
  constructor
  · intro h
    exact ⟨exists_ofReplies_iff.mp ⟨b, h⟩, describes_of_ofReplies h⟩
  · rintro ⟨accepted, describes⟩
    obtain ⟨b', h⟩ := exists_ofReplies_iff.mpr accepted
    rw [h, describes.unique (describes_of_ofReplies h)]

/-- **The replies are refused** for the first room that is listed twice, or else for the first
placement that cannot be made. -/
theorem ofReplies_eq_error_iff {e : SourceError} :
    ofReplies list reply = .error e ↔ Refuses list reply e := by
  rw [ofReplies_eq]
  cases repeated : firstRepeated? (listed list) with
  | some room =>
      have notNodup : ¬(listed list).Nodup := by
        rw [← firstRepeated?_eq_none_iff, repeated]
        exact Option.some_ne_none room
      rw [Except.error.injEq]
      constructor
      · rintro rfl
        exact .repeated ((firstRepeated?_eq_some_iff _ _).mp repeated)
      · intro h
        cases h with
        | repeated other =>
            rw [(firstRepeated?_eq_some_iff _ _).mpr other] at repeated
            rw [Option.some.inj repeated]
        | undeclared _ fine | twice _ fine => exact absurd fine.rooms notNodup
  | none =>
      have nodup : (listed list).Nodup := (firstRepeated?_eq_none_iff _).mp repeated
      have failed : (place (listed list) .empty reply.positions).map (Bootstrap.mk (listed list)) =
          .error e ↔ place (listed list) .empty reply.positions = .error e := by
        cases place (listed list) .empty reply.positions <;> simp [Except.map]
      rw [failed, place_eq_error_iff]
      constructor
      · rintro ⟨before, p, later, split, fine, ⟨unknown, rfl⟩ | ⟨known, placed | again, rfl⟩⟩
        · exact .undeclared split (isAccepted_iff.mpr ⟨nodup, fine⟩) unknown
        · cases placed
        · exact .twice split (isAccepted_iff.mpr ⟨nodup, fine⟩) known again
      · intro h
        cases h with
        | repeated again =>
            rw [(firstRepeated?_eq_some_iff _ _).mpr again] at repeated
            cases repeated
        | undeclared split fine unknown =>
            exact ⟨_, _, _, split, (isAccepted_iff.mp fine).2, .inl ⟨unknown, rfl⟩⟩
        | twice split fine known again =>
            exact ⟨_, _, _, split, (isAccepted_iff.mp fine).2, .inr ⟨known, .inr again, rfl⟩⟩

/-- **The order of the placements is of no account.** -/
theorem ofReplies_eq_ok_iff_of_perm {reply' : LayoutReply}
    (reorders : reply.positions.Perm reply'.positions) :
    ofReplies list reply = .ok b ↔ ofReplies list reply' = .ok b := by
  have passes {reply reply' : LayoutReply} (reorders : reply.positions.Perm reply'.positions)
      (h : ofReplies list reply = .ok b) : ofReplies list reply' = .ok b := by
    obtain ⟨⟨rooms, declared, once⟩, describes⟩ := ofReplies_eq_ok_iff.mp h
    refine ofReplies_eq_ok_iff.mpr ⟨⟨rooms, fun p hp => declared p (reorders.mem_iff.mpr hp),
      (reorders.map _).nodup_iff.mp once⟩, describes.rooms, fun room position => ?_⟩
    rw [describes.layout]
    simp only [reorders.mem_iff]
  exact ⟨passes reorders, passes reorders.symm⟩

end Bootstrap
end HexWorld
