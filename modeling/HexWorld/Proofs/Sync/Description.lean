import HexWorld.Proofs.Sync.Run
import HexWorld.Proofs.World.Bootstrap
import HexWorld.Rehearsal.Conversation
import HexWorld.Rehearsal.Script

/-!
# `Proofs.Sync.Description` — how a session learns what its world is like

A session asks for the room list, then for the layout, and then checks the two against one another.
Each of the three can fail, and a failure hides whatever would have failed after it. `Answers` says
what two answers come to, without an order of work; a conversation and the machine that supervises a
source both do what it says.

## Contents
- `Bootstrap.Answers`: what the answers to the two requests come to; `answers_iff`.
- `Conversation.bootstrap_eq`: a conversation puts the answers together.
- `Supervisor.describe_eq`: the two polls by which a machine takes the answers.
- `Bootstrap.checks_and_describes`.
-/

namespace HexWorld

open Rehearsal

/-! ## Two answers -/

namespace Bootstrap

/-- What the answers to the two requests come to. A failure to list the rooms goes before a failure
to place them, and both go before what the checks find. -/
inductive Answers (listing : Except SourceError RoomList) (placing : Except SourceError LayoutReply) :
    Except SourceError Bootstrap → Prop where
  | unlisted {e} (failed : listing = .error e) : Answers listing placing (.error e)
  | unplaced {list e} (answered : listing = .ok list) (failed : placing = .error e) :
      Answers listing placing (.error e)
  | refused {list reply e} (answered : listing = .ok list) (placed : placing = .ok reply)
      (refuses : Refuses list reply e) : Answers listing placing (.error e)
  | described {list reply b} (answered : listing = .ok list) (placed : placing = .ok reply)
      (accepted : IsAccepted list reply) (describes : Describes list reply b) :
      Answers listing placing (.ok b)

/-- The answers come to what the checks make of them, if both have come. -/
theorem answers_iff {listing : Except SourceError RoomList}
    {placing : Except SourceError LayoutReply} {r : Except SourceError Bootstrap} :
    Answers listing placing r ↔
      (listing.bind fun list => placing.bind fun reply => ofReplies list reply) = r := by
  constructor
  · intro h
    cases h with
    | unlisted failed =>
        rw [failed]
        rfl
    | unplaced answered failed =>
        rw [answered, failed]
        rfl
    | refused answered placed refuses =>
        rw [answered, placed]
        exact ofReplies_eq_error_iff.mpr refuses
    | described answered placed accepted describes =>
        rw [answered, placed]
        exact ofReplies_eq_ok_iff.mpr ⟨accepted, describes⟩
  · rintro rfl
    cases listing with
    | error e => exact .unlisted rfl
    | ok list =>
        cases placing with
        | error e => exact .unplaced rfl rfl
        | ok reply =>
            show Answers _ _ (ofReplies list reply)
            cases checked : ofReplies list reply with
            | error e => exact .refused rfl rfl (ofReplies_eq_error_iff.mp checked)
            | ok b =>
                obtain ⟨accepted, describes⟩ := ofReplies_eq_ok_iff.mp checked
                exact .described rfl rfl accepted describes

end Bootstrap

/-! ## Conversations -/

namespace Rehearsal.Conversation

variable {σ : Type} [Source σ]

/-- The answer to the request for the room list. -/
def listing (c : Conversation σ) : Except SourceError RoomList :=
  (c.ask "ListRooms" (Source.listRooms c.connection)).1

/-- The answer to the request for the layout, which is sent once the rooms have been listed. -/
def placing (c : Conversation σ) : Except SourceError LayoutReply :=
  ((c.ask "ListRooms" (Source.listRooms c.connection)).2.ask "GetRoomLayout"
    (Source.layout c.connection)).1

theorem bootstrap_eq (c : Conversation σ) :
    c.bootstrap.1 = c.listing.bind fun list => c.placing.bind fun reply =>
      Bootstrap.ofReplies list reply := by
  unfold bootstrap listing placing
  rcases asked : c.ask "ListRooms" (Source.listRooms c.connection) with ⟨_ | list, d⟩
  · rfl
  · have connection : d.connection = c.connection := by
      have same : d = (c.ask "ListRooms" (Source.listRooms c.connection)).2 := by rw [asked]
      rw [same]
      rfl
    simp only [connection]
    rcases d.ask "GetRoomLayout" (Source.layout c.connection) with ⟨_ | reply, d'⟩ <;> rfl

end Rehearsal.Conversation

/-! ## The machine -/

namespace Supervisor

variable {β τ : Type} {settings : SyncSettings} {subscription : Subscription β τ}
  {s : Supervisor β τ}

variable (settings subscription) in
/-- The two polls that bring the answers. -/
def describe (listing : Bounded RoomList) (placing : Bounded LayoutReply) (s : Supervisor β τ) :
    Supervisor β τ × List Effect :=
  let (s, first) := s.poll settings subscription false (some (.listed listing))
  let (s, second) := s.poll settings subscription false (some (.placed placing))
  (s, first ++ second)

/-- The machine goes on with a description of the world, or fails for want of one. -/
def proceed (policy : Backoff) (s : Supervisor β τ) :
    Except SourceError Bootstrap → Supervisor β τ × List Effect
  | .ok b => s.publishFirst b
  | .error e => s.fail policy e

/-- A failure is taken in the same way at whatever position. -/
theorem fail_moveTo (policy : Backoff) (e : SourceError) (p : Position) :
    (s.moveTo p).1.fail policy e = s.fail policy e := by
  rcases fail_cases policy e s with ⟨final, h⟩ | ⟨retryable, allowed, h⟩ | ⟨retryable, forbidden, h⟩
  · exact (fail_of_final final).trans h.symm
  · exact (fail_of_allowed retryable allowed).trans h.symm
  · exact (fail_of_forbidden retryable forbidden).trans h.symm

/-- A machine whose session is over has no use for a layout. -/
theorem poll_placed_of_isHalted (halted : s.position.IsHalted) (placing : Bounded LayoutReply) :
    s.poll settings subscription false (some (.placed placing)) = (s, []) := by
  cases position : s.position with
  | ended => exact poll_of_ended position false _
  | sleeping => simp [poll, take, position]
  | idle | beginning | connecting | listing | placing | subscribing | streaming =>
      rw [position] at halted
      cases halted

/-- **The machine does what the answers come to**: it publishes the first snapshot of the world that
is described, or takes the failure. -/
theorem describe_eq (position : s.position = .listing) {listing : Bounded RoomList}
    {placing : Bounded LayoutReply} {r : Except SourceError Bootstrap}
    (h : Bootstrap.Answers (listing.ofRequest "ListRooms" settings.requestTimeout)
      (placing.ofRequest "GetRoomLayout" settings.requestTimeout) r) :
    s.describe settings subscription listing placing =
      s.proceed settings.policy r := by
  have listed {list : RoomList}
      (answered : listing.ofRequest "ListRooms" settings.requestTimeout = .ok list) :
      s.poll settings subscription false (some (.listed listing)) = s.moveTo (.placing list) := by
    simp [poll, take, position, answered]
  have breaks {list : RoomList} {e : SourceError}
      (breaks : Breaks settings.requestTimeout (.placing list) (.placed placing) e) :
      (s.moveTo (.placing list)).1.poll settings subscription false (some (.placed placing)) =
        s.fail settings.policy e := by
    rw [← fail_moveTo settings.policy e (.placing list)]
    exact poll_of_breaks breaks
  unfold describe
  cases h with
  | unlisted failed =>
      have first : s.poll settings subscription false (some (.listed listing)) =
          s.fail settings.policy _ :=
        poll_of_breaks (position ▸ Breaks.unlisted failed)
      rw [first]
      simp only [poll_placed_of_isHalted (isHalted_fail _ _ _), List.append_nil]
      rfl
  | unplaced answered failed =>
      rw [listed answered]
      exact breaks (.unplaced failed)
  | refused answered placed refuses =>
      rw [listed answered]
      exact breaks (.malformed placed (Bootstrap.ofReplies_eq_error_iff.mpr refuses))
  | described answered placed accepted describes =>
      rw [listed answered]
      simp [poll, take, moveTo, placed, proceed, publishFirst,
        Bootstrap.ofReplies_eq_ok_iff.mpr ⟨accepted, describes⟩]

end Supervisor

/-! ## Descriptions -/

namespace Bootstrap

/-- **What makes a description of the world.** The replies are read exactly when no room is listed
twice, listed rooms only are placed, and none of them twice; they are then read as the one
description that says what they say, in which exactly the listed rooms count as declared, and the
order of the placements is of no account. Otherwise they are refused for the first room that is
listed twice, or else for the first placement that cannot be made. A failure to list the rooms goes
before a failure to place them, and that before what the checks find, in a conversation and in the
machine. -/
theorem checks_and_describes {σ β τ : Type} [Source σ] (settings : SyncSettings)
    (subscription : Subscription β τ) :
    (∀ list reply, (∃ b, ofReplies list reply = .ok b) ↔ IsAccepted list reply) ∧
    (∀ list reply b, ofReplies list reply = .ok b ↔ IsAccepted list reply ∧ Describes list reply b) ∧
    (∀ list reply e, ofReplies list reply = .error e ↔ Refuses list reply e) ∧
    (∀ list reply b, ofReplies list reply = .ok b → ∀ room,
      (Snapshot.initial b).topology.contains room = true ↔ room ∈ listed list) ∧
    (∀ list (reply reply' : LayoutReply), reply.positions.Perm reply'.positions → ∀ b,
      ofReplies list reply = .ok b ↔ ofReplies list reply' = .ok b) ∧
    (∀ (c : Conversation σ) r, c.bootstrap.1 = r ↔ Answers c.listing c.placing r) ∧
    ∀ (s : Supervisor β τ) (listing : Bounded RoomList) (placing : Bounded LayoutReply) r,
      s.position = .listing →
      Answers (listing.ofRequest "ListRooms" settings.requestTimeout)
        (placing.ofRequest "GetRoomLayout" settings.requestTimeout) r →
      s.describe settings subscription listing placing = s.proceed settings.policy r := by
  refine ⟨fun _ _ => exists_ofReplies_iff, fun _ _ _ => ofReplies_eq_ok_iff,
    fun _ _ _ => ofReplies_eq_error_iff, ?_, fun _ _ _ reorders _ =>
    ofReplies_eq_ok_iff_of_perm reorders, ?_, fun _ _ _ _ position h =>
    Supervisor.describe_eq position h⟩
  · intro list reply b h room
    have rooms : b.rooms = listed list := (describes_of_ofReplies h).rooms
    rw [← rooms]
    exact List.contains_iff_mem
  · intro c r
    rw [answers_iff, Conversation.bootstrap_eq]

/-- Two rooms with a place each, in one order or the other; and a room that nobody listed, placed
before a room is placed twice. -/
theorem checks_and_describes_strayRoom :
    let list : RoomList := ⟨[⟨0, 0⟩, ⟨1, 0⟩]⟩
    let here : RoomPlacement := ⟨⟨0, 0⟩, default⟩
    let there : RoomPlacement := ⟨⟨1, 0⟩, default⟩
    let stray : RoomPlacement := ⟨⟨2, 0⟩, default⟩
    let reply : LayoutReply := ⟨[there, stray, there]⟩
    let s : Supervisor Unit Unit := (Supervisor.start [] ()).moveTo .listing |>.1
    [here, there].Perm [there, here] ∧
    (∃ b, ofReplies list ⟨[here, there]⟩ = .ok b ∧ ofReplies list ⟨[there, here]⟩ = .ok b ∧
      (Snapshot.initial b).topology.contains ⟨⟨1, 0⟩⟩ = true) ∧
    s.position = .listing ∧ Answers (.ok list) (.ok reply) (.error (placesUndeclared ⟨⟨2, 0⟩⟩)) ∧
    s.describe Supervisor.plainSettings Supervisor.noSubscription (.answered (.ok list))
        (.answered (.ok reply)) =
      s.fail Supervisor.plainSettings.policy (placesUndeclared ⟨⟨2, 0⟩⟩) := by
  intro list here there stray reply s
  obtain ⟨-, -, -, declares, reorders, -, machine⟩ := checks_and_describes (σ := Script)
    Supervisor.plainSettings Supervisor.noSubscription
  have perm : [here, there].Perm [there, here] := .swap _ _ _
  have refuses : Refuses list reply (placesUndeclared ⟨⟨2, 0⟩⟩) := ofReplies_eq_error_iff.mp rfl
  have answers : Answers (.ok list) (.ok reply) (.error (placesUndeclared ⟨⟨2, 0⟩⟩)) :=
    .refused rfl rfl refuses
  refine ⟨perm, ⟨_, rfl, (reorders list ⟨[here, there]⟩ ⟨[there, here]⟩ perm _).mp rfl,
    (declares list ⟨[here, there]⟩ _ rfl _).mpr ?_⟩, rfl, answers, ?_⟩
  · exact List.mem_cons_of_mem _ List.mem_cons_self
  · exact machine s (.answered (.ok list)) (.answered (.ok reply)) _ rfl answers

end Bootstrap

end HexWorld
