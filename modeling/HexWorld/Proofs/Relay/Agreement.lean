import HexWorld.Proofs.Relay.Occasion
import HexWorld.Proofs.Relay.Route
import HexWorld.Relay.Http

/-!
# `Proofs.Relay.Agreement` — requests and stream clients are told the same

Who asks for a room over HTTP has the text in the path, and who asks over a stream sends it. The two
ways to an answer share little: the one does not trim and turns failures into statuses, the other
trims and sends frames. Still both find the same texts to be rooms, and give the same answer to them.

## Contents
- `RoomId.Names`: a text and the room that it names.
- `Finding` and `finding`: what a text finds in a snapshot.
- `IsAnswer`: what a request gets, told without the program's checks.
- `SaysSame` and `answered_alike`: a response and the frames that say the same.
- `Observation.hub` and `Observation.Sound`, `room?_of_undeclared`: the states that others read.
- `requests_and_streams_agree`.
-/

namespace HexWorld

open Json Text

/-- The text is one of the texts of the room. -/
def RoomId.Names (t : String) (room : RoomId) : Prop :=
  Writes t.toList room.axial.q.toInt room.axial.r.toInt

/-- There are no entities to be had. -/
def IsUnknown (current : Option Snapshot) : Prop :=
  ∀ s, current = some s → s.entities = none

/-- What a text finds: it is no room, or its room is unknown with all others, or it is a room in a
snapshot with entities. -/
inductive Finding (current : Option Snapshot) (t : String) : Prop where
  | stranger {e} (misread : RoomId.parse t = .error e) (none : ∀ room, ¬RoomId.Names t room)
  | unknown {room} (read : RoomId.parse t = .ok room) (named : RoomId.Names t room)
      (bare : IsUnknown current)
      (missing : Snapshot.latestObjects current room = .error .notInitialized)
  | known {room s entities} (read : RoomId.parse t = .ok room) (named : RoomId.Names t room)
      (stored : current = some s) (full : s.entities = some entities)
      (found : Snapshot.latestObjects current room =
        .ok ⟨s.worldTime, room, (entities.find? room).getD .none⟩)

theorem finding (current : Option Snapshot) (t : String) : Finding current t := by
  cases read : RoomId.parse t with
  | error e =>
      refine .stranger read fun room named => ?_
      rw [RoomId.parse_eq_ok_iff.mpr named] at read
      cases read
  | ok room =>
      have named : RoomId.Names t room := RoomId.parse_eq_ok_iff.mp read
      cases stored : current with
      | none => exact .unknown read named (fun _ h => by cases h) rfl
      | some s =>
          cases full : s.entities with
          | none =>
              refine .unknown read named ?_ (Snapshot.roomObjects_of_none full room)
              intro a same
              cases same
              exact full
          | some entities =>
              have found : s.roomObjects room =
                  .ok ⟨s.worldTime, room, (entities.find? room).getD .none⟩ := by
                rw [Snapshot.roomObjects, full]
              exact .known read named rfl full found

/-! ## Requests -/

/-- What a request for the objects of the room that `t` names is answered while `current` is the
latest snapshot. A text of no room is refused whatever the snapshot is; a room without entities is
empty. -/
structure IsAnswer (current : Option Snapshot) (t : String) (r : Response) : Prop where
  status : r.status = 200 ∨ r.status = 400 ∨ r.status = 503
  refused : r.status = 400 ↔ ∀ room, ¬RoomId.Names t room
  unknown : r.status = 503 ↔ (∃ room, RoomId.Names t room) ∧ IsUnknown current
  shown : r.status = 200 ↔ ∃ room s entities, RoomId.Names t room ∧ current = some s ∧
    s.entities = some entities ∧ r.content = .json (.ofFields [
      ("time", .ofInt64 s.worldTime), ("roomId", .ofString room.text),
      ("payload", ((entities.find? room).getD .none).toJson)])

theorem isAnswer_refused {current : Option Snapshot} {t : String}
    (none : ∀ room, ¬RoomId.Names t room) (detail : String) :
    IsAnswer current t (.ofError (.invalidRoomId detail)) where
  status := .inr (.inl rfl)
  refused := ⟨fun _ => none, fun _ => rfl⟩
  unknown := ⟨nofun, fun ⟨⟨room, named⟩, _⟩ => absurd named (none room)⟩
  shown := ⟨nofun, fun ⟨room, _, _, named, _⟩ => absurd named (none room)⟩

theorem isAnswer_unknown {current : Option Snapshot} {t : String} {room : RoomId}
    (named : RoomId.Names t room) (bare : IsUnknown current) :
    IsAnswer current t (.ofError .notInitialized) where
  status := .inr (.inr rfl)
  refused := ⟨nofun, fun none => absurd named (none room)⟩
  unknown := ⟨fun _ => ⟨⟨room, named⟩, bare⟩, fun _ => rfl⟩
  shown := by
    refine ⟨nofun, ?_⟩
    rintro ⟨_, s, _, -, stored, full, -⟩
    rw [bare s stored] at full
    cases full

theorem isAnswer_shown {current : Option Snapshot} {t : String} {room : RoomId} {s : Snapshot}
    {entities : RoomMap RoomEntities} (named : RoomId.Names t room) (stored : current = some s)
    (full : s.entities = some entities) :
    IsAnswer current t
      (.ofJson (RoomObjects.toJson ⟨s.worldTime, room, (entities.find? room).getD .none⟩)) where
  status := .inl rfl
  refused := ⟨nofun, fun none => absurd named (none room)⟩
  unknown := by
    refine ⟨nofun, fun ⟨_, bare⟩ => ?_⟩
    rw [bare s stored] at full
    cases full
  shown := ⟨fun _ => ⟨room, s, entities, named, stored, full, rfl⟩, fun _ => rfl⟩

/-- The request for the objects of the room that a part of the path names. -/
def objectsRequest (part : List Char) (headers : List (String × String)) : Request :=
  ⟨"GET", String.ofList (Route.objectsPath part), headers⟩

variable {β τ : Type}

theorem handle_objectsRequest {t : String} {part : List Char}
    (spelled : Encodes t.toUTF8.toList part) (h : Hub β τ) (clients : Nat)
    (headers : List (String × String)) :
    handle h clients (objectsRequest part headers) =
      .ofRoom (some t) fun room => .respond (.ofResult RoomObjects.toJson (h.objects room)) := by
  have route : Route.ofUri? (objectsRequest part headers).uri.toList = some (.objects (some t)) := by
    rw [objectsRequest, String.toList_ofList]
    exact Route.ofUri?_objectsPath spelled
  rw [handle, route]
  rfl

/-! ## Requests and stream clients -/

/-- Frames that say what a response says: the last of them has the same body beside its tag, or the
same error, and a text that is no room gets no other frame. -/
inductive SaysSame : Response → List Outbound → Prop where
  | refused {r message} (status : r.status = 400) : SaysSame r [.frame (.error message)]
  | unknown {r first message} (status : r.status = 503)
      (content : r.content =
        .json (.ofFields [("error", .ofString message), ("status", .ofNat 503)])) :
      SaysSame r [first, .frame (.error message)]
  | shown {r first last fields} (status : r.status = 200)
      (content : r.content = .json (.ofFields fields))
      (tagged : Frame.toJson last = .ofFields (("ty", .ofString "entities") :: fields)) :
      SaysSame r [first, .frame last]

/-- **One finding, two ways to tell it.** -/
theorem answered_alike {t : String} {part : List Char} (spelled : Encodes t.toUTF8.toList part)
    (h : Hub β τ) (clients : Nat) (headers : List (String × String)) :
    ∃ r, handle h clients (objectsRequest part headers) = .respond r ∧ IsAnswer h.current t r ∧
      ∀ (c : Client) terrain, c.stage = .attending →
        SaysSame r (c.meet (.text t terrain true h.current true)).2 := by
  rw [handle_objectsRequest spelled]
  cases finding h.current t with
  | @stranger e misread none =>
      refine ⟨.ofError (.invalidRoomId s!"{quoted t}: {e.message}"), ?_,
        isAnswer_refused none _, fun c terrain stage => ?_⟩
      · rw [Handling.ofRoom, misread]
      · cases trimmed : RoomId.parse (String.ofList (trim t.toList)) with
        | error e =>
            rw [Client.meet_text_of_error stage trimmed]
            exact .refused rfl
        | ok room =>
            rw [RoomId.parse_trim_eq_ok_iff.mp trimmed] at misread
            cases misread
  | unknown read named bare missing =>
      refine ⟨.ofError .notInitialized, ?_, isAnswer_unknown named bare, fun c terrain stage => ?_⟩
      · rw [Handling.ofRoom, read]
        show Handling.respond (.ofResult _ (h.objects _)) = _
        rw [Hub.objects, missing]
        rfl
      · rw [Client.meet_text_of_ok stage read, missing]
        exact .unknown rfl rfl
  | @known room s entities read named stored full found =>
      refine ⟨_, ?_, isAnswer_shown named stored full, fun c terrain stage => ?_⟩
      · rw [Handling.ofRoom, read]
        show Handling.respond (.ofResult _ (h.objects room)) = _
        rw [Hub.objects, found]
        rfl
      · rw [Client.meet_text_of_ok stage read, found]
        exact .shown rfl rfl rfl

/-! ## Rooms that are not declared -/

namespace Supervisor

variable {settings : SyncSettings} {subscription : Subscription β τ} {s : Supervisor β τ}

/-- The session goes on from a sound snapshot, if it has one. -/
def GoesOnSound (s : Supervisor β τ) : Prop :=
  ∀ a, s.position.current? = some a → a.IsSound

theorem sound_move (h : s.GoesOnSound) (m : Move β τ) :
    let r := s.move settings subscription m
    r.1.GoesOnSound ∧ ∀ a ∈ stored r.2, a.IsSound :=
  published_move settings subscription h m
    (fun _ _ _ _ valid => Snapshot.isSound_initial (Bootstrap.isSound_of_ofReplies valid) s.session)
    fun _ _ sound declared => sound.after declared

end Supervisor

namespace Observation

/-- What others read. -/
def hub (o : Observation β τ) : Hub β τ :=
  { o.writer.hub with current := o.published }

/-- Every snapshot in sight is sound. -/
structure Sound (o : Observation β τ) : Prop where
  writer : o.writer.GoesOnSound
  undone : ∀ a ∈ stored o.undone, a.IsSound
  published : ∀ a, o.published = some a → a.IsSound

theorem sound_happens {settings : SyncSettings} {subscription : Subscription β τ} {capacity : Nat}
    {o o' : Observation β τ} (happens : Happens settings subscription capacity o o')
    (h : o.Sound) : o'.Sound := by
  have later {e rest} (next : o.undone = e :: rest) : ∀ a ∈ stored rest, a.IsSound := by
    intro a mem
    refine h.undone a ?_
    rw [next, ← List.singleton_append, stored_append]
    exact List.mem_append_right _ mem
  cases happens with
  | rests | connects | takes | reports | hears | reacts => exact ⟨h.writer, h.undone, h.published⟩
  | decides decided idle =>
      subst decided
      obtain ⟨writer, undone⟩ := Supervisor.sound_move h.writer _
      exact ⟨writer, undone, h.published⟩
  | works next | relays next => exact ⟨h.writer, later next, h.published⟩
  | @stores s rest next =>
      refine ⟨h.writer, later next, fun a published => ?_⟩
      cases published
      refine h.undone s ?_
      rw [next]
      exact List.mem_cons_self

/-- **No reader finds anything in a room that is not declared**, whatever the writer and the
connections do. -/
theorem room?_of_undeclared (settings : SyncSettings) (subscription : Subscription β τ)
    (capacity : Nat) (words : List UInt64) (memory : τ) (actions : List (Action β τ))
    {s : Snapshot} {room : RoomId}
    (found : (after settings subscription capacity actions (start words memory)).published =
      some s)
    (undeclared : room ∉ s.topology.rooms) : s.room? room = none := by
  have start : Sound (start words memory : Observation β τ) := ⟨nofun, nofun, nofun⟩
  have sound : (after settings subscription capacity actions (.start words memory)).Sound :=
    after_induction start (fun _ _ => sound_happens) actions
  cases full : s.entities with
  | none => rw [Snapshot.room?, full, Option.bind_none]
  | some entities =>
      rw [Snapshot.room?, full, Option.bind_some]
      -- A room with an entry is declared.
      exact Classical.byContradiction fun known =>
        undeclared ((sound.published s found).entities entities full room
          ((RoomMap.mem_keys_iff _ _).mpr known))

end Observation

/-! ## Both -/

/-- **Requests and stream clients are told the same.** In every state that others can read, a
request for the objects of a room is answered as `IsAnswer` tells, however the text is spelled in
its path; a client that sends the text while the latest snapshot stays is sent frames that say the
same, whatever becomes of the terrain. Every text has a spelling; that of the empty text is an empty
part of the path, which is a part like all others. In a snapshot that others read, rooms that are
not declared have no entities. -/
theorem requests_and_streams_agree (settings : SyncSettings) (subscription : Subscription β τ)
    (capacity : Nat) (words : List UInt64) (memory : τ) (actions : List (Action β τ)) :
    let h := (Observation.after settings subscription capacity actions (.start words memory)).hub
    (∀ t : String, (∃ part, Encodes t.toUTF8.toList part) ∧
      ∀ part, Encodes t.toUTF8.toList part → ∀ clients headers, ∃ r,
        handle h clients (objectsRequest part headers) = .respond r ∧ IsAnswer h.current t r ∧
          ∀ (c : Client) terrain, c.stage = .attending →
            SaysSame r (c.meet (.text t terrain true h.current true)).2) ∧
    ∀ s, h.current = some s → ∀ room ∉ s.topology.rooms, s.room? room = none := by
  intro h
  refine ⟨fun t => ⟨Encodes.exists_encodes _, fun part spelled clients headers => ?_⟩, ?_⟩
  · exact answered_alike spelled h clients headers
  · exact fun s found room undeclared => Observation.room?_of_undeclared settings subscription
      capacity words memory actions found undeclared

open Observation Supervisor in
/-- A room that is asked for with a space and a semicolon, and one that is not declared. -/
theorem requests_and_streams_agree_padded :
    let h := (Observation.after plainSettings noSubscription 1
      (writes (.poll false none :: opening [⟨1, 0⟩] ++ [.hear (tick 1 ⟨1, 0⟩ [default])]))
      (.start [] ())).hub
    (∃ r, handle h 1 (objectsRequest "%201%3b0".toList []) = .respond r ∧ r.status = 200 ∧
      IsAnswer h.current " 1;0" r ∧
      SaysSame r (Client.connect.meet (.text " 1;0" (.ok []) true h.current true)).2) ∧
    ∃ s, h.current = some s ∧ s.room? ⟨⟨5, 5⟩⟩ = none := by
  intro h
  obtain ⟨agree, undeclared⟩ := requests_and_streams_agree plainSettings noSubscription 1 [] ()
    (writes (.poll false none :: opening [⟨1, 0⟩] ++ [.hear (tick 1 ⟨1, 0⟩ [default])]))
  have bytes : " 1;0".toUTF8.toList = [.ofNat (2 * 16 + 0), .ofNat '1'.toNat,
      .ofNat (3 * 16 + 11), .ofNat '0'.toNat] := by decide +kernel
  have spelled : Encodes " 1;0".toUTF8.toList "%201%3b0".toList := by
    rw [bytes, show "%201%3b0".toList = ['%', '2', '0', '1', '%', '3', 'b', '0'] from rfl]
    exact .escaped rfl rfl (.plain rfl (.escaped rfl rfl (.plain rfl .nil)))
  have status : (match handle h 1 (objectsRequest "%201%3b0".toList []) with
      | .respond r => r.status
      | _ => 0) = 200 := by decide +kernel
  have outside : h.current.any (fun s => !s.topology.rooms.contains ⟨⟨5, 5⟩⟩) = true := by
    decide +kernel
  obtain ⟨-, told⟩ := agree " 1;0"
  obtain ⟨r, response, answer, alike⟩ := told _ spelled 1 []
  rw [show handle h 1 _ = _ from response] at status
  obtain ⟨s, current, missing⟩ := (Option.any_eq_true _ _).mp outside
  refine ⟨⟨r, response, status, answer, alike .connect (.ok []) rfl⟩, s, current, ?_⟩
  exact undeclared s current _ (by simpa using missing)

end HexWorld
