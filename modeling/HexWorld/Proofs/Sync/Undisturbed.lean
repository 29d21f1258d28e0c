import HexWorld.Message.Decode
import HexWorld.Proofs.Sync.Notification
import HexWorld.Proofs.Sync.Session

/-!
# `Proofs.Sync.Undisturbed` — failures leave alone what has been published

Readers keep what they have. From the failure of a session until the world has been described again,
however many sessions that takes, nothing is stored. And a message is taken as a whole or not at
all: one that is refused, for whatever cause, stores nothing, calls nobody and does not end the row
of failures, also if parts of it were in order.

## Contents
- `undescribed_move`, `undescribed_run`: nothing is stored before the world has been described.
- `published_run`: a session goes on from what the store holds.
- `Refused` and `accepted?_eq_none_iff`: the items that are not accepted.
- `Undisturbed`, `Takes`: what a refused and an accepted item do.
- `failures_leave_published`.
-/

namespace HexWorld

open Json
open Update (groupRoom)

namespace Supervisor

variable {β τ : Type} {settings : SyncSettings} {subscription : Subscription β τ}
  {s : Supervisor β τ}

/-! ## Before the world has been described -/

theorem stored_of_isQuiet {effects : List Effect} (h : ∀ e ∈ effects, e.IsQuiet) :
    stored effects = [] := by
  rw [← map_storedSince 0 effects, storedSince_of_isQuiet h]
  rfl

/-- A move that does not describe the world stores nothing, unless a session has described it. -/
theorem undescribed_move {m : Move β τ} (closed : s.position.current? = none)
    (undescribed : Mark.described ∉ s.marks settings subscription m) :
    (s.move settings subscription m).1.hub.current = s.hub.current ∧
      stored (s.move settings subscription m).2 = [] ∧
      (s.move settings subscription m).1.position.current? = none := by
  have quiet {r : Supervisor β τ × List Effect} (h : Quietly s r) :
      r.1.hub.current = s.hub.current ∧ stored r.2 = [] ∧ r.1.position.current? = none := by
    refine ⟨h.current, stored_of_isQuiet h.effects, ?_⟩
    cases going : r.1.position.current? with
    | none => rfl
    | some c =>
        rw [h.position c going] at closed
        cases closed
  cases m with
  | register | deregister | remember => exact ⟨rfl, rfl, closed⟩
  | poll stopping ready =>
      have step : Step settings subscription s stopping ready
        (s.move settings subscription (.poll stopping ready)) := step_poll stopping ready
      rcases publication_cases step with
        h | h | ⟨rooms, result, layout, b, position, answered, valid, rfl, rfl, -⟩ |
        ⟨current, m, update, next, position, -⟩
      · exact quiet h
      · rw [h]
        exact ⟨rfl, rfl, rfl⟩
      · -- This poll is told as a description of the world.
        refine absurd (List.mem_append_left _ ?_) undescribed
        simp [newsOf, position, Position.news, answered, valid, bind, Except.bind, pure,
          Except.pure, Mark.ofNews]
      · rw [position] at closed
        cases closed

/-- **Nothing is stored before the world has been described** again. -/
theorem undescribed_run {moves : List (Move β τ)} (closed : s.position.current? = none)
    (undescribed : Mark.described ∉ course settings subscription moves s) :
    (run settings subscription moves s).1.hub.current = s.hub.current ∧
      stored (run settings subscription moves s).2 = [] := by
  induction moves generalizing s with
  | nil => exact ⟨rfl, rfl⟩
  | cons m rest ih =>
      rw [course_cons, List.mem_append, not_or] at undescribed
      obtain ⟨current, silent, closed⟩ := undescribed_move closed undescribed.1
      obtain ⟨current_rest, silent_rest⟩ := ih closed undescribed.2
      rw [run_cons, stored_append, silent, silent_rest]
      exact ⟨current_rest.trans current, rfl⟩

/-- A session goes on from what the store holds. -/
theorem published_run (settings : SyncSettings) (subscription : Subscription β τ)
    (words : List UInt64) (memory : τ) (moves : List (Move β τ)) :
    let s := (run settings subscription moves (start words memory)).1
    ∀ c, s.position.current? = some c → s.hub.current = some c := by
  refine run_induction
    (P := fun s _ => ∀ c, s.position.current? = some c → s.hub.current = some c) ?_ ?_ moves
  · intro c none
    cases none
  · intro s log m ih c going
    rcases move_cases settings subscription s m with
      quiet | begins | ⟨-, rooms, layout, b, -, first⟩ |
      ⟨current, message, update, next, -, -, -, accepted⟩
    · rw [quiet.current]
      exact ih c (quiet.position c going)
    · rw [begins] at going
      cases going
    · rw [first] at going ⊢
      exact going
    · rw [accepted] at going ⊢
      exact going

/-! ## Items that are not accepted -/

/-- Why an item of the subscription is not accepted by a session that goes on from this snapshot. -/
inductive Refused (current : Snapshot) : Except SourceError EntitiesMessage → Prop where
  /-- The source tells of a failure in its place. -/
  | faulty {e} : Refused current (.error e)
  | undecodable {payload} (unread : (Value.ofBytes? payload).bind EntitiesMessage.ofJson? = none) :
      Refused current (decodeEntities payload)
  /-- The time is no signed number of 64 bits. -/
  | outOfRange {m} (large : 0x8000000000000000 ≤ m.worldTime.toNat) : Refused current (.ok m)
  /-- A category lists a room twice. -/
  | repeats {m} (twice : ¬((m.bots.map groupRoom).Nodup ∧ (m.structures.map groupRoom).Nodup ∧
      (m.resources.map groupRoom).Nodup)) : Refused current (.ok m)
  | late {m} (late : (m.worldTime.toNat : Int) ≤ current.worldTime.toInt) : Refused current (.ok m)
  /-- A room is named that has not been declared; others may have been. -/
  | undeclared {m room} (named : room ∈ m.named) (undeclared : room ∉ current.topology.rooms) :
      Refused current (.ok m)

/-- **The items that are not accepted.** -/
theorem accepted?_eq_none_iff {current : Snapshot} {item : Except SourceError EntitiesMessage} :
    Position.accepted? (.streaming current) false (some (.item (some item))) = none ↔
      Refused current item := by
  constructor
  · intro refused
    cases item with
    | error e => exact .faulty
    | ok m =>
        -- Without any of the causes the message makes the next snapshot.
        by_cases large : 0x8000000000000000 ≤ m.worldTime.toNat
        · exact .outOfRange large
        by_cases once : (m.bots.map groupRoom).Nodup ∧ (m.structures.map groupRoom).Nodup ∧
            (m.resources.map groupRoom).Nodup
        · by_cases late : (m.worldTime.toNat : Int) ≤ current.worldTime.toInt
          · exact .late late
          by_cases declared : ∀ room ∈ m.named, room ∈ current.topology.rooms
          · obtain ⟨update, valid⟩ := Update.exists_ofMessage_iff.mpr ⟨by omega, once⟩
            have newer : current.worldTime < update.worldTime := by
              rw [Int64.lt_iff_toInt_lt, Update.worldTime_of_ofMessage valid]
              omega
            have known : current.Declares update := fun room hr =>
              declared room ((Update.mem_keys_of_ofMessage valid room).mp hr)
            have accepted := Position.accepted?_item_eq_some_iff.mpr
              ⟨m, update, rfl, valid, Snapshot.apply_eq_ok_iff.mpr ⟨newer, known, rfl⟩⟩
            rw [accepted] at refused
            cases refused
          · simp only [Classical.not_forall] at declared
            obtain ⟨room, named, undeclared⟩ := declared
            exact .undeclared named undeclared
        · exact .repeats once
  · intro refused
    rw [Option.eq_none_iff_forall_ne_some]
    intro next accepted
    obtain ⟨m, update, same, valid, applied⟩ := Position.accepted?_item_eq_some_iff.mp accepted
    obtain ⟨small, once⟩ := Update.exists_ofMessage_iff.mp ⟨update, valid⟩
    obtain ⟨newer, known, -⟩ := Snapshot.apply_eq_ok_iff.mp applied
    rw [Int64.lt_iff_toInt_lt, Update.worldTime_of_ofMessage valid] at newer
    cases refused with
    | faulty => cases same
    | undecodable unread =>
        rw [decodeEntities, unread] at same
        cases same
    | outOfRange large =>
        cases same
        omega
    | repeats twice =>
        cases same
        exact twice once
    | late late =>
        cases same
        omega
    | undeclared named undeclared =>
        cases same
        exact undeclared (known _ ((Update.mem_keys_of_ofMessage valid _).mpr named))

/-! ## What becomes of an item -/

/-- The reaction to an event leaves alone what has been published, who is to be called, and the row
of failures, to which the session may add its own. -/
structure Undisturbed (timeout : Duration) (e : Event) (s : Supervisor β τ)
    (r : Supervisor β τ × List Effect) : Prop where
  current : r.1.hub.current = s.hub.current
  registry : r.1.hub.registry = s.hub.registry
  memory : r.1.hub.memory = s.hub.memory
  snapshotsPublished : r.1.hub.counters.snapshotsPublished = s.hub.counters.snapshotsPublished
  callbackFailures : r.1.hub.counters.callbackFailures = s.hub.counters.callbackFailures
  unstored : stored r.2 = []
  uncalled : r.2.filterMap (Effect.pass? (β := β)) = []
  failures : (r.1.position = s.position ∧ r.1.failures = s.failures) ∨
    ∃ failure, Breaks timeout s.position e failure ∧ r.1.position.IsHalted ∧
      r.1.failures =
        if failure.isRetryable then Saturating.next32 s.failures else s.failures

/-- **A failure disturbs nothing.** -/
theorem undisturbed_fail {e : Event} {failure : SourceError}
    (breaks : Breaks settings.requestTimeout s.position e failure) :
    Undisturbed settings.requestTimeout e s (s.fail settings.policy failure) := by
  have quiet : Quietly s (s.fail settings.policy failure) := .fail settings.policy failure
  have untouched : Untouched s (s.fail settings.policy failure) := .fail settings.policy failure
  refine ⟨quiet.current, untouched.registry, untouched.memory, ?_, untouched.callbackFailures,
    stored_of_isQuiet quiet.effects, untouched.uncalled,
    .inr ⟨failure, breaks, isHalted_fail settings.policy failure s, ?_⟩⟩
  · rcases fail_cases settings.policy failure s with
      ⟨-, h⟩ | ⟨-, -, h⟩ | ⟨-, -, h⟩ <;> rw [h] <;> rfl
  · rcases fail_cases settings.policy failure s with
      ⟨retryable, h⟩ | ⟨retryable, -, h⟩ | ⟨retryable, -, h⟩ <;> rw [h, retryable] <;> rfl

/-- **An item that is refused disturbs nothing.** -/
theorem undisturbed_of_refused {current : Snapshot} (position : s.position = .streaming current)
    {item : Except SourceError EntitiesMessage} (refused : Refused current item) :
    Undisturbed settings.requestTimeout (.item (some item)) s
      (s.poll settings subscription false (some (.item (some item)))) := by
  have none := accepted?_eq_none_iff.mpr refused
  have step : Step settings subscription s false (some (.item (some item)))
    (s.poll settings subscription false (some (.item (some item)))) := step_poll false _
  generalize s.poll settings subscription false (some (.item (some item))) = r at step
  cases step with
  | broken breaks => exact undisturbed_fail breaks
  | rest => exact ⟨rfl, rfl, rfl, rfl, rfl, rfl, rfl, .inl ⟨rfl, rfl⟩⟩
  | late => exact ⟨rfl, rfl, rfl, rfl, rfl, rfl, rfl, .inl ⟨rfl, rfl⟩⟩
  | accepted streams valid applied =>
      cases position.symm.trans streams
      rw [Position.accepted?_item_eq_some_iff.mpr ⟨_, _, rfl, valid, applied⟩] at none
      cases none
  | began other | connecting other => cases position.symm.trans other

/-- The next snapshot holds all that the message says, and otherwise what the last one held. -/
structure Takes (previous next : Snapshot) (m : EntitiesMessage) : Prop where
  worldTime : next.worldTime.toInt = m.worldTime.toNat
  rooms : ∀ room, next.room? room =
    if room ∈ m.named then some (m.collections room) else previous.room? room
  diagnostics : next.diagnostics = m.diagnostics
  topology : next.topology = previous.topology
  session : next.session = previous.session

theorem takes_of_applied {previous next : Snapshot} {m : EntitiesMessage} {update : Update}
    (valid : Update.ofMessage m = .ok update) (applied : previous.apply update = .ok next) :
    Takes previous next m := by
  obtain ⟨-, -, rfl⟩ := Snapshot.apply_eq_ok_iff.mp applied
  refine ⟨Update.worldTime_of_ofMessage valid, fun room => ?_,
    Update.diagnostics_of_ofMessage valid, rfl, rfl⟩
  rw [Snapshot.room?_after, Update.find?_of_ofMessage valid]
  split <;> rfl

/-! ## Runs -/

/-- **Failures leave alone what has been published.** Let `s` be any machine in a run.

As long as no session goes on from a snapshot, the store keeps what it holds until a session has
described the world, through any number of failures, waits and new sessions. Every failure of a
session leaves the machine in that state, and the store as it was. An item of the subscription is
refused, which disturbs nothing, or its message makes the next snapshot as a whole. -/
theorem failures_leave_published (settings : SyncSettings) (subscription : Subscription β τ)
    (words : List UInt64) (memory : τ) (moves : List (Move β τ)) :
    let s := (run settings subscription moves (start words memory)).1
    (∀ later, s.position.current? = none →
      Mark.described ∉ course settings subscription later s →
      (run settings subscription later s).1.hub.current = s.hub.current ∧
        stored (run settings subscription later s).2 = []) ∧
    (∀ e failure, Breaks settings.requestTimeout s.position e failure →
      let r := s.poll settings subscription false (some e)
      Undisturbed settings.requestTimeout e s r ∧ r.1.position.current? = none) ∧
    (∀ current item, s.position = .streaming current → s.hub.current = some current ∧
      let r := s.poll settings subscription false (some (.item (some item)))
      (Refused current item → Undisturbed settings.requestTimeout (.item (some item)) s r) ∧
      (¬Refused current item → ∃ m next, item = .ok m ∧ Takes current next m ∧
        r.1.hub.current = some next ∧ stored r.2 = [next])) := by
  intro s
  refine ⟨fun later closed undescribed => undescribed_run closed undescribed,
    fun e failure breaks => ?_, fun current item position => ⟨?_, ?_, ?_⟩⟩
  · show Undisturbed _ _ _ (s.poll settings subscription false (some e)) ∧
      (s.poll settings subscription false (some e)).1.position.current? = none
    rw [poll_of_breaks breaks]
    refine ⟨undisturbed_fail breaks, ?_⟩
    have halted := isHalted_fail settings.policy failure s
    cases position : (s.fail settings.policy failure).1.position with
    | subscribing | streaming =>
        rw [position] at halted
        exact halted.elim
    | idle | beginning | connecting | listing | placing | sleeping | ended => rfl
  · refine published_run settings subscription words memory moves current ?_
    rw [show (run settings subscription moves (start words memory)).1.position = _ from position]
    rfl
  · exact undisturbed_of_refused position
  · intro taken
    rw [← accepted?_eq_none_iff, ← ne_eq, Option.ne_none_iff_exists'] at taken
    obtain ⟨next, accepted⟩ := taken
    obtain ⟨m, update, rfl, valid, applied⟩ := Position.accepted?_item_eq_some_iff.mp accepted
    refine ⟨m, next, rfl, takes_of_applied valid applied, ?_⟩
    rw [← position] at accepted
    rw [(poll_of_accepted settings subscription accepted).1]
    exact ⟨rfl, rfl⟩

/-- A session that has accepted an update. -/
def oneUpdate : List (Move Unit Unit) :=
  .poll false none :: opening [⟨0, 0⟩] ++ [.hear (tick 5 ⟨0, 0⟩ [])]

/-- A message about a declared room and another one. -/
def halfKnown : EntitiesMessage :=
  ⟨6, [⟨⟨0, 0⟩, []⟩, ⟨⟨9, 9⟩, []⟩], [], [], none⟩

/-- The message ends the session, and the next one gets no connection. -/
def brokenOff : List (Move Unit Unit) :=
  [.poll false (some .woken), .poll false none, .poll false (some (.connected .elapsed))]

/-- The message is refused and disturbs nothing, although a part of it was in order, and nothing is
stored before the world has been described again. -/
theorem failures_leave_published_halfKnown :
    let s := (run plainSettings noSubscription oneUpdate (start [] ())).1
    let r := s.poll plainSettings noSubscription false (some (.item (some (.ok halfKnown))))
    let t := (run plainSettings noSubscription (oneUpdate ++ [.hear halfKnown]) (start [] ())).1
    Undisturbed plainSettings.requestTimeout (.item (some (.ok halfKnown))) s r ∧
    (run plainSettings noSubscription brokenOff t).1.hub.current = t.hub.current ∧
    t.hub.current.map (·.worldTime) = some 5 := by
  intro s r t
  obtain ⟨current, position, rooms⟩ : ∃ current, s.position = .streaming current ∧
      current.topology.rooms = [⟨⟨0, 0⟩⟩] := ⟨_, rfl, rfl⟩
  have named : (⟨⟨9, 9⟩⟩ : RoomId) ∈ halfKnown.named := by decide
  have undeclared : (⟨⟨9, 9⟩⟩ : RoomId) ∉ current.topology.rooms := by
    rw [rooms]
    decide
  have before := failures_leave_published plainSettings noSubscription [] () oneUpdate
  have after := failures_leave_published plainSettings noSubscription [] ()
    (oneUpdate ++ [.hear halfKnown])
  exact ⟨(before.2.2 current _ position).2.1 (.undeclared named undeclared),
    (after.1 brokenOff (by decide +kernel) (by decide +kernel)).1, by decide +kernel⟩

end Supervisor
end HexWorld
