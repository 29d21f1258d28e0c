import HexWorld.Proofs.Bus.Reply
import HexWorld.Proofs.Message.Layout
import HexWorld.Proofs.Sync.Run
import HexWorld.Proofs.World.RoomText
import HexWorld.Proofs.World.Snapshot
import HexWorld.Relay.Http

/-!
# `Proofs.Relay.Layout` — the places that readers see

A layout is read, checked, stored with every snapshot of its session and written for those who ask
for the rooms. On its way nobody looks at the numbers. They are narrowed to 32 bits when they are
read, and what is infinite then is written as `null`.

## Contents
- `given_membersSorted`, `given_ofFields`: the members of an object with sorted names.
- `Places`, `Snapshot.places_roomsJson`: the places in a list of rooms.
- `LayoutReply.IsToldBy`, `LayoutReply.IsNumericIn` and `IsToldBy.isNumericIn_iff`: a layout and the
  list that shows it.
- `Supervisor.IsFrom`, `isFrom_of_stored`: what is published was given and accepted.
- `layouts_come_through_iff_finite`, `layout_beyond_single_shown_as_null`.
-/

namespace HexWorld

open Json

/-! ## Sorted names -/

namespace Json

theorem perm_insertMember (m : Literal × Value) (members : List (Literal × Value)) :
    (Value.insertMember m members).Perm (m :: members) := by
  induction members with
  | nil => exact .refl _
  | cons other rest ih =>
      rw [Value.insertMember]
      split
      · exact .refl _
      · exact (ih.cons other).trans (.swap m other rest)

theorem perm_membersSorted (members : List (Literal × Value)) :
    (Value.membersSorted members).Perm (members.map fun m => (m.1, m.2.sorted)) := by
  induction members with
  | nil => exact .refl _
  | cons m rest ih =>
      rw [Value.membersSorted]
      exact (perm_insertMember _ _).trans (ih.cons _)

/-- A member that is the only one with its name is so among the sorted ones. -/
theorem given_membersSorted {name : String} {members : List (Literal × Value)} {v : Value}
    (once : given name members = [v]) : given name (Value.membersSorted members) = [v.sorted] := by
  have values : given name (members.map fun m => (m.1, m.2.sorted)) = [v.sorted] := by
    have found := congrArg (List.map Value.sorted) once
    rw [given, List.map_map] at found
    rw [given, List.filter_map, List.map_map]
    exact found
  exact List.perm_singleton.mp (values ▸ perm_given (perm_membersSorted members))

/-- A field is the only member with its name. -/
theorem given_ofFields {fields : List (String × Value)} (distinct : (fields.map Prod.fst).Nodup)
    {f : String × Value} (mem : f ∈ fields) :
    given f.1 (fields.map fun (name, v) => (Literal.ofText name.toList, v)) = [f.2] := by
  have named : (fun m : Literal × Value => decide (m.1.text? = some f.1.toList)) ∘
      (fun (name, v) => (Literal.ofText name.toList, v)) = fun g : String × Value =>
        decide (g.1.toList = f.1.toList) := by
    funext g
    simp [Literal.text?_ofText]
  rw [given, List.filter_map, named, filter_name distinct mem]
  rfl

end Json

/-! ## Lists of rooms -/

/-- A list of rooms has one place for a room, with these values for its two coordinates. -/
inductive Places (body : Value) (room : RoomId) (x y : Value) : Prop where
  | intro {members layout place} (isObject : body = .object members)
      (layouts : given "layout" members = [.object layout])
      (places : given room.text layout = [.object place]) (columns : given "x" place = [x])
      (rows : given "y" place = [y])

/-- A room has one place at most. -/
theorem Places.unique {body : Value} {room : RoomId} {x y x' y' : Value} (h : Places body room x y)
    (h' : Places body room x' y') : x = x' ∧ y = y' := by
  obtain ⟨rfl, layouts, places, columns, rows⟩ := h
  obtain ⟨same, layouts', places', columns', rows'⟩ := h'
  cases same
  rw [layouts] at layouts'
  cases layouts'
  rw [places] at places'
  cases places'
  rw [columns] at columns'
  cases columns'
  rw [rows] at rows'
  cases rows'
  exact ⟨rfl, rfl⟩

theorem sorted_ofBinary {f : Format} (layout : Layout) (x : Binary f) :
    (Value.ofBinary layout x).sorted = .ofBinary layout x := by
  cases x <;> rfl

/-- No two rooms of a map have the same text. -/
theorem RoomMap.nodup_texts {α : Type} (m : RoomMap α) :
    (m.entries.map fun e => e.1.text).Nodup := by
  rw [List.nodup_iff_pairwise_ne, List.pairwise_map]
  refine m.increasing.imp fun {a b} before same => ?_
  rw [RoomId.text_injective same] at before
  exact RoomId.lt_irrefl b.1 before

namespace Snapshot

variable {s : Snapshot} {room : RoomId}

/-- The members of the layout in a list of rooms. -/
def placeFields (s : Snapshot) : List (String × Value) :=
  s.topology.layout.entries.map fun e => (e.1.text, e.2.wideJson)

theorem given_layout_roomsJson : ∃ members, s.roomsJson = .object members ∧
    given "layout" members = [.object (Value.membersSorted
      (s.placeFields.map fun (name, v) => (Literal.ofText name.toList, v)))] := by
  refine ⟨_, rfl, given_membersSorted (v := .ofFields s.placeFields) ?_⟩
  exact given_ofFields (f := ("layout", .ofFields s.placeFields)) (by simp) (by simp [placeFields])

/-- **Each placed room has its place in the list of rooms.** -/
theorem places_roomsJson {position : RoomPosition}
    (placed : s.topology.layout.find? room = some position) :
    Places s.roomsJson room (.ofDouble (position.x.convert .double))
      (.ofDouble (position.y.convert .double)) := by
  obtain ⟨members, isObject, layouts⟩ := given_layout_roomsJson (s := s)
  have texts : (s.placeFields.map Prod.fst).Nodup := by
    rw [placeFields, List.map_map]
    exact s.topology.layout.nodup_texts
  have field : (room.text, position.wideJson) ∈ s.placeFields :=
    List.mem_map.mpr ⟨_, (RoomMap.find?_eq_some_iff _ _ _).mp placed, rfl⟩
  have coordinates {f : String × Value} (mem : f ∈ [
      ("x", Value.ofDouble (position.x.convert .double)),
      ("y", Value.ofDouble (position.y.convert .double))]) := given_membersSorted
    (given_ofFields (by simp) mem)
  refine .intro isObject layouts (given_membersSorted (given_ofFields texts field)) ?_ ?_
  · exact (coordinates List.mem_cons_self).trans (by rw [Value.ofDouble, sorted_ofBinary])
  · exact (coordinates (List.mem_cons_of_mem _ List.mem_cons_self)).trans
      (by rw [Value.ofDouble, sorted_ofBinary])

/-- No other room has a place. -/
theorem mem_keys_of_places {x y : Value} (h : Places s.roomsJson room x y) :
    room ∈ s.topology.layout.keys := by
  obtain ⟨members, isObject, layouts⟩ := given_layout_roomsJson (s := s)
  obtain @⟨_, _, place, isObject', layouts', places, -, -⟩ := h
  rw [isObject] at isObject'
  cases isObject'
  rw [layouts] at layouts'
  cases layouts'
  -- The place is the value of a member, which has the text of a room in the layout.
  have mem : .object place ∈ given room.text _ := places ▸ List.mem_singleton_self _
  obtain ⟨m, found, -⟩ := List.mem_map.mp mem
  obtain ⟨sorted, text⟩ := List.mem_filter.mp found
  obtain ⟨m', unsorted, rfl⟩ := List.mem_map.mp ((perm_membersSorted _).mem_iff.mp sorted)
  obtain ⟨f, field, rfl⟩ := List.mem_map.mp unsorted
  obtain ⟨e, entry, rfl⟩ := List.mem_map.mp field
  have same : e.1 = room := by
    refine RoomId.text_injective (String.toList_inj.mp (Option.some.inj ?_))
    exact (Literal.text?_ofText _).symm.trans (of_decide_eq_true text)
  exact same ▸ List.mem_map_of_mem entry

end Snapshot

/-! ## The places of a layout -/

/-- A number is shown as a number, and as `null` if it is not finite. -/
inductive IsShownAs (x : Single) : Value → Prop where
  | number {n} (finite : x.IsFinite) : IsShownAs x (.number n)
  | null (infinite : ¬x.IsFinite) : IsShownAs x .null

theorem isShownAs_convert {x : Single} (regular : x.IsRegular) :
    IsShownAs x (.ofDouble (x.convert .double)) := by
  have finite := isFinite_convert_double regular
  cases converted : x.convert .double with
  | finite negative y =>
      rw [converted] at finite
      exact .number (finite.mp trivial)
  | infinite | notNumber =>
      rw [converted] at finite
      exact .null fun h => finite.mpr h

theorem IsShownAs.exists_number_iff {x : Single} {v : Value} (h : IsShownAs x v) :
    (∃ n, v = .number n) ↔ x.IsFinite := by
  cases h with
  | @number n finite => exact ⟨fun _ => finite, fun _ => ⟨n, rfl⟩⟩
  | null infinite => exact ⟨nofun, fun finite => absurd finite infinite⟩

namespace LayoutReply

/-- The rooms with a place in a list of rooms are those of the layout, and the places are as in the
layout. -/
structure IsToldBy (reply : LayoutReply) (body : Value) : Prop where
  placed : ∀ p ∈ reply.positions, ∃ x y, Places body p.roomId x y ∧
    IsShownAs p.position.x x ∧ IsShownAs p.position.y y
  only : ∀ room x y, Places body room x y → ∃ p ∈ reply.positions, p.roomId = room

/-- In a list of rooms, each room of the layout has numbers for its coordinates. -/
def IsNumericIn (reply : LayoutReply) (body : Value) : Prop :=
  ∀ p ∈ reply.positions, ∃ n m, Places body p.roomId (.number n) (.number m)

variable {reply : LayoutReply} {body : Value}

theorem IsToldBy.isNumericIn_iff (h : reply.IsToldBy body) :
    reply.IsNumericIn body ↔ reply.IsFinite := by
  constructor
  · intro numeric p mem
    obtain ⟨x, y, place, shown_x, shown_y⟩ := h.placed p mem
    obtain ⟨n, m, numbers⟩ := numeric p mem
    obtain ⟨rfl, rfl⟩ := place.unique numbers
    exact ⟨shown_x.exists_number_iff.mp ⟨n, rfl⟩, shown_y.exists_number_iff.mp ⟨m, rfl⟩⟩
  · intro finite p mem
    obtain ⟨x, y, place, shown_x, shown_y⟩ := h.placed p mem
    obtain ⟨n, rfl⟩ := shown_x.exists_number_iff.mpr (finite p mem).1
    obtain ⟨m, rfl⟩ := shown_y.exists_number_iff.mpr (finite p mem).2
    exact ⟨n, m, place⟩

end LayoutReply

/-- The layout of a snapshot is that of an accepted description. -/
theorem Snapshot.isToldBy_roomsJson {list : RoomList} {reply : LayoutReply} {b : Bootstrap}
    {s : Snapshot} (accepted : Bootstrap.ofReplies list reply = .ok b) (regular : reply.IsRegular)
    (layout : s.topology.layout = b.layout) : reply.IsToldBy s.roomsJson := by
  have describes := Bootstrap.describes_of_ofReplies accepted
  constructor
  · intro p mem
    have placed : s.topology.layout.find? p.roomId = some p.position := by
      rw [layout, describes.layout]
      exact ⟨p, mem, rfl, rfl⟩
    obtain ⟨regular_x, regular_y⟩ := regular p mem
    exact ⟨_, _, places_roomsJson placed, isShownAs_convert regular_x, isShownAs_convert regular_y⟩
  · intro room x y place
    obtain ⟨position, placed⟩ := Option.ne_none_iff_exists'.mp
      ((RoomMap.mem_keys_iff _ _).mp (mem_keys_of_places place))
    rw [layout, describes.layout] at placed
    obtain ⟨p, mem, same, -⟩ := placed
    exact ⟨p, mem, same⟩

/-! ## Runs -/

namespace Supervisor

variable {β τ : Type} {settings : SyncSettings} {subscription : Subscription β τ}

/-- The layouts that the machine is given. -/
def layouts (moves : List (Move β τ)) : List LayoutReply :=
  moves.filterMap Move.layout?

/-- The topology is that of a description with one of these layouts. -/
def IsFrom (replies : List LayoutReply) (t : Topology) : Prop :=
  ∃ reply ∈ replies, ∃ list b, Bootstrap.ofReplies list reply = .ok b ∧ t = ⟨b.rooms, b.layout⟩

/-- **Whatever is published has a topology from a layout that was given and accepted**, if the
session at the start goes on from such a snapshot. -/
theorem isFrom_run {replies : List LayoutReply} {s : Supervisor β τ} {moves : List (Move β τ)}
    (going : ∀ a, s.position.current? = some a → IsFrom replies a.topology)
    (given : ∀ m ∈ moves, ∀ reply, m.layout? = some reply → reply ∈ replies) :
    ∀ a ∈ stored (run settings subscription moves s).2, IsFrom replies a.topology := by
  induction moves generalizing s with
  | nil => exact List.forall_mem_nil _
  | cons m rest ih =>
      obtain ⟨here, later⟩ := List.forall_mem_cons.mp given
      -- An update leaves the topology as it is.
      obtain ⟨going, published⟩ := published_move settings subscription
        (P := fun a => IsFrom replies a.topology) going m
        (fun rooms reply b told accepted => ⟨reply, here reply told, rooms, b, accepted, rfl⟩)
        fun _ _ told _ => told
      rw [run_cons, stored_append]
      exact List.forall_mem_append.mpr ⟨published, ih going later⟩

theorem isFrom_of_stored (words : List UInt64) (memory : τ) (moves : List (Move β τ)) :
    ∀ a ∈ stored (run settings subscription moves (start words memory)).2,
      IsFrom (layouts moves) a.topology :=
  isFrom_run nofun fun m mem _ told => List.mem_filterMap.mpr ⟨m, mem, told⟩

end Supervisor

/-! ## From the source to the readers -/

section Readers

variable {β τ : Type}

/-- A request for the list of rooms. -/
def Request.AsksForRooms (r : Request) : Prop :=
  r.method = "GET" ∧ Route.ofUri? r.uri.toList = some .rooms

theorem handle_rooms {h : Hub β τ} {s : Snapshot} (current : h.current = some s) (clients : Nat)
    {r : Request} (asks : r.AsksForRooms) :
    handle h clients r = .respond (.ofJson s.roomsJson) := by
  obtain ⟨method, route⟩ := asks
  rw [handle, method, route]
  simp [current]

/-- Whoever asks for the rooms is told of the places of a layout, in numbers exactly if all of them
are finite. -/
def ShowsRooms (h : Hub β τ) (reply : LayoutReply) : Prop :=
  ∀ clients r, r.AsksForRooms → ∃ body, handle h clients r = .respond (.ofJson body) ∧
    reply.IsToldBy body ∧ (reply.IsNumericIn body ↔ reply.IsFinite)

theorem showsRooms {h : Hub β τ} {s : Snapshot} {list : RoomList} {reply : LayoutReply}
    {b : Bootstrap} (current : h.current = some s)
    (accepted : Bootstrap.ofReplies list reply = .ok b) (regular : reply.IsRegular)
    (topology : s.topology = ⟨b.rooms, b.layout⟩) : ShowsRooms h reply := by
  intro clients r asks
  have told := Snapshot.isToldBy_roomsJson accepted regular (congrArg Topology.layout topology)
  exact ⟨_, handle_rooms current clients asks, told, told.isNumericIn_iff⟩

/-- **A layout comes through exactly if all its places are finite.** A layout that was decoded and
accepted is published, and whoever reads a snapshot with its topology is told of its places: all in
numbers if all are finite, and otherwise some with a `null`. What is written for the layout, by
itself or in a reply, is read as the same layout if all places are finite, and is refused otherwise.
In every run whose layouts were decoded, whoever reads a published snapshot is told of the places of
one of them. A place is finite exactly if both its numbers lie below the bound at which narrowing
overflows. -/
theorem layouts_come_through_iff_finite (settings : SyncSettings)
    (subscription : Subscription β τ) :
    (∀ operation room input list reply b,
      decodeReply LayoutReply.ofJson? operation room input = .ok reply →
      Bootstrap.ofReplies list reply = .ok b →
      (∀ s : Supervisor β τ, s.position = .placing list →
        s.poll settings subscription false (some (.placed (.answered (.ok reply)))) =
          s.publishFirst b) ∧
      (∀ (h : Hub β τ) s, h.current = some s → s.topology = (Snapshot.initial b).topology →
        ShowsRooms h reply) ∧
      (Value.ofBytes? (payload reply.toJson)).bind LayoutReply.ofJson? =
        (if reply.IsFinite then some reply else none) ∧
      decodeReply LayoutReply.ofJson? operation room
          (payload (Reply.toJson LayoutReply.toJson (.ok reply))) =
        if reply.IsFinite then .ok reply
        else .error (.protocol s!"undecodable {operation} reply")) ∧
    (∀ words memory moves,
      (∀ reply ∈ Supervisor.layouts moves, ∃ operation room input,
        decodeReply LayoutReply.ofJson? operation room input = .ok reply) →
      ∀ s ∈ stored (Supervisor.run settings subscription moves (.start words memory)).2,
        ∀ h : Hub β τ, h.current = some s → ∃ reply ∈ Supervisor.layouts moves,
          ShowsRooms h reply) ∧
    ∀ v p, RoomPosition.ofJson? v = some p → ∃ n m : Number,
      slots ["x", "y"] v = some [some (.number n), some (.number m)] ∧
        (p.IsFinite ↔ n.FitsSingle ∧ m.FitsSingle) := by
  refine ⟨?_, ?_, fun v p read => RoomPosition.exists_numbers_isFinite_iff read⟩
  · intro operation room input list reply b decoded accepted
    have regular := LayoutReply.isRegular_of_carries (decodeReply_eq_ok_iff.mp decoded)
    refine ⟨fun s position => ?_, fun h s current topology => ?_,
      LayoutReply.ofBytes?_payload regular, LayoutReply.decodeReply_payload regular operation room⟩
    · simp [Supervisor.poll, Supervisor.take, position, Bounded.ofRequest, accepted]
    · exact showsRooms current accepted regular topology
  · intro words memory moves come s published h current
    obtain ⟨reply, given, list, b, accepted, topology⟩ :=
      Supervisor.isFrom_of_stored words memory moves s published
    obtain ⟨operation, room, input, decoded⟩ := come reply given
    have regular := LayoutReply.isRegular_of_carries (decodeReply_eq_ok_iff.mp decoded)
    exact ⟨reply, given, showsRooms current accepted regular topology⟩

end Readers

open Supervisor in
/-- A number between the integers, and one that is just below the bound. -/
theorem layouts_come_through_iff_finite_fraction :
    let input := ("\x7b\"status\":\"ok\",\"body\":\x7b\"positions\":[\x7b\"roomId\":\x7b\"q\":0," ++
      "\"r\":1\x7d,\"position\":\x7b\"x\":-0.1,\"y\":3.4028235677973362e38\x7d\x7d]\x7d\x7d").toUTF8
    let list : RoomList := ⟨[⟨0, 1⟩]⟩
    let position : RoomPosition := ⟨.finite true ⟨13421773, -27⟩, .finite false ⟨0xFFFFFF, 104⟩⟩
    let reply : LayoutReply := ⟨[⟨⟨0, 1⟩, position⟩]⟩
    let b : Bootstrap := ⟨[⟨⟨0, 1⟩⟩], .insert .empty ⟨⟨0, 1⟩⟩ position⟩
    let placing := ((start [] () : Supervisor Unit Unit).moveTo (.placing list)).1
    let moves : List (Move Unit Unit) := [.poll false none, .poll false none,
      .poll false (some (.connected (.answered (.ok ())))),
      .poll false (some (.listed (.answered (.ok list)))),
      .poll false (some (.placed (.answered (.ok reply))))]
    let h := (run plainSettings noSubscription moves (start [] ())).1.hub
    decodeReply LayoutReply.ofJson? "GetRoomLayout" none input.toList = .ok reply ∧
    Bootstrap.ofReplies list reply = .ok b ∧
    placing.position = .placing list ∧
    placing.poll plainSettings noSubscription false (some (.placed (.answered (.ok reply)))) =
      placing.publishFirst b ∧
    (∃ body, handle h 0 ⟨"GET", "/api/rooms", []⟩ = .respond (.ofJson body) ∧
      reply.IsNumericIn body) ∧
    (Value.ofBytes? (payload reply.toJson)).bind LayoutReply.ofJson? = some reply ∧
    ∃ reply ∈ layouts moves, ShowsRooms h reply := by
  intro input list position reply b placing moves h
  have decoded : decodeReply LayoutReply.ofJson? "GetRoomLayout" none input.toList = .ok reply := by
    decide +kernel
  have accepted : Bootstrap.ofReplies list reply = .ok b := by decide +kernel
  have finite : reply.IsFinite := by decide
  have asks : Request.AsksForRooms ⟨"GET", "/api/rooms", []⟩ := ⟨rfl, by decide⟩
  obtain ⟨told, runs, -⟩ := layouts_come_through_iff_finite plainSettings noSubscription
  obtain ⟨publishes, shows, text, -⟩ := told _ _ _ _ _ _ decoded accepted
  rw [if_pos finite] at text
  refine ⟨decoded, accepted, rfl, publishes placing rfl, ?_, text, ?_⟩
  · obtain ⟨body, response, -, numeric⟩ := shows h _ rfl rfl 0 _ asks
    exact ⟨body, response, numeric.mpr finite⟩
  · refine runs [] () moves ?_ _ (List.mem_singleton_self _) h rfl
    exact List.forall_mem_singleton.mpr ⟨_, _, _, decoded⟩

open Supervisor in
/-- A number of 64 bits that is infinite in 32. -/
theorem layout_beyond_single_shown_as_null :
    let input := ("\x7b\"status\":\"ok\",\"body\":\x7b\"positions\":[\x7b\"roomId\":\x7b\"q\":0," ++
      "\"r\":0\x7d,\"position\":\x7b\"x\":1e39,\"y\":0\x7d\x7d]\x7d\x7d").toUTF8.toList
    let list : RoomList := ⟨[⟨0, 0⟩]⟩
    let position : RoomPosition := ⟨.infinite false, .finite false ⟨0, -149⟩⟩
    let reply : LayoutReply := ⟨[⟨⟨0, 0⟩, position⟩]⟩
    let b : Bootstrap := ⟨[⟨⟨0, 0⟩⟩], .insert .empty ⟨⟨0, 0⟩⟩ position⟩
    let moves : List (Move Unit Unit) := [.poll false none, .poll false none,
      .poll false (some (.connected (.answered (.ok ())))),
      .poll false (some (.listed (.answered (.ok list)))),
      .poll false (some (.placed (.answered
        (decodeReply LayoutReply.ofJson? "GetRoomLayout" none input))))]
    let h := (run plainSettings noSubscription moves (start [] ())).1.hub
    decodeReply LayoutReply.ofJson? "GetRoomLayout" none input = .ok reply ∧
    Bootstrap.ofReplies list reply = .ok b ∧
    (∃ body, handle h 0 ⟨"GET", "/api/rooms", []⟩ = .respond (.ofJson body) ∧
      (∃ y, Places body ⟨⟨0, 0⟩⟩ .null y) ∧ ¬reply.IsNumericIn body) ∧
    (Value.ofBytes? (payload reply.toJson)).bind LayoutReply.ofJson? = none := by
  intro input list position reply b moves h
  have decoded : decodeReply LayoutReply.ofJson? "GetRoomLayout" none input = .ok reply := by
    decide +kernel
  have accepted : Bootstrap.ofReplies list reply = .ok b := by decide +kernel
  have infinite : ¬reply.IsFinite := by decide
  have regular := LayoutReply.isRegular_of_carries (decodeReply_eq_ok_iff.mp decoded)
  have asks : Request.AsksForRooms ⟨"GET", "/api/rooms", []⟩ := ⟨rfl, by decide⟩
  have current : h.current = some { Snapshot.initial b with session := 1 } := by
    simp only [h, moves, decoded]
    rfl
  obtain ⟨body, response, told, numeric⟩ := showsRooms current accepted regular rfl 0 _ asks
  obtain ⟨x, y, place, shown, -⟩ := told.placed _ List.mem_cons_self
  have text := LayoutReply.ofBytes?_payload regular
  rw [if_neg infinite] at text
  refine ⟨decoded, accepted, ⟨body, response, ⟨y, ?_⟩, fun h => infinite (numeric.mp h)⟩, text⟩
  cases shown with
  | number finite => exact finite.elim
  | null => exact place

end HexWorld
