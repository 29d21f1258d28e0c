import HexWorld.Proofs.Sync.Run

/-!
# `Proofs.Sync.Erasure` — a machine without its subscribers

Subscribers are called, and they may change the registry and what they remember, and fail. The
machine only counts their failures. So a machine can be stripped of all that its subscribers can
touch, and it goes on as it would have gone on with them.

## Contents
- `Supervisor.bare`, `Effect.bare`: a machine and its effects without the subscribers.
- `bare_poll`, `bare_run`: erasing commutes with polls and runs.
- `bareReaction_run_eq`: the polls of a run determine all else.
-/

namespace HexWorld

/-- The effect without the outcome of the calls. -/
def Effect.bare : Effect → Effect
  | .notify s _ => .notify s .none
  | e => e

/-- What does not look at the outcome of calls reads the same off bare effects. -/
theorem filterMap_bare {α : Type} {read : Effect → Option α} (blind : ∀ e, read e.bare = read e)
    (log : List Effect) : (log.map Effect.bare).filterMap read = log.filterMap read := by
  rw [List.filterMap_map]
  congr 1
  funext e
  exact blind e

/-- The totals without that of failed calls. -/
def Counters.bare (c : Counters) : Counters :=
  { c with callbackFailures := 0 }

namespace Supervisor

variable {β τ : Type}

/-- The machine without subscribers. -/
def bare (s : Supervisor β τ) : Supervisor Unit Unit :=
  ⟨s.position, s.session, s.failures, s.words,
    ⟨s.hub.current, .empty, s.hub.phase, s.hub.counters.bare, ()⟩⟩

/-- A reaction without subscribers. -/
def bareReaction (r : Supervisor β τ × List Effect) : Supervisor Unit Unit × List Effect :=
  (r.1.bare, r.2.map Effect.bare)

variable {settings : SyncSettings} {subscription : Subscription β τ} {s : Supervisor β τ}

/-! ## Reactions -/

theorem bare_fail (policy : Backoff) (e : SourceError) :
    bareReaction (s.fail policy e) = s.bare.fail policy e := by
  rcases fail_cases policy e s with ⟨final, h⟩ | ⟨retryable, allowed, h⟩ | ⟨retryable, forbidden, h⟩
  · rw [h, fail, if_neg (Bool.eq_false_iff.mp final)]
    rfl
  · rw [h, fail, if_pos retryable]
    exact (if_pos allowed).symm
  · rw [h, fail, if_pos retryable]
    exact (if_neg (Bool.eq_false_iff.mp forbidden)).symm

theorem bare_receive (current : Snapshot) (m : EntitiesMessage) :
    bareReaction (s.receive settings.policy subscription current m) =
      s.bare.receive settings.policy noSubscription current m := by
  unfold receive
  cases Update.ofMessage m with
  | error e => exact bare_fail settings.policy e
  | ok update =>
      simp only
      cases current.apply update with
      | ok next => rfl
      | error refusal =>
          cases refusal with
          | stale => rfl
          | unknownRoom room => exact bare_fail settings.policy _

theorem bare_take (e : Event) :
    bareReaction (s.take settings subscription e) = s.bare.take settings noSubscription e := by
  unfold take
  have same : s.bare.position = s.position := rfl
  rw [same]
  split
  case h_1 result _ =>
    cases result.ofConnect with
    | ok => rfl
    | error failure => exact bare_fail settings.policy failure
  case h_2 => rfl
  case h_3 result _ =>
    simp only
    cases result.ofRequest "ListRooms" settings.requestTimeout with
    | ok rooms => rfl
    | error failure => exact bare_fail settings.policy failure
  case h_4 rooms result _ =>
    simp only
    cases result.ofRequest "GetRoomLayout" settings.requestTimeout with
    | error failure => exact bare_fail settings.policy failure
    | ok layout =>
        simp only
        cases Bootstrap.ofReplies rooms layout with
        | ok b => rfl
        | error failure => exact bare_fail settings.policy failure
  case h_5 current result _ =>
    simp only
    cases result.ofRequest "SubscribeEntities" settings.requestTimeout with
    | ok => rfl
    | error failure => exact bare_fail settings.policy failure
  case h_6 current item _ =>
    cases item with
    | ok m => exact bare_receive current m
    | error failure => exact bare_fail settings.policy failure
  case h_7 => exact bare_fail settings.policy .streamEnded
  case h_8 => rfl
  case h_9 => rfl

theorem bare_stop : bareReaction s.stop = s.bare.stop := by
  unfold stop
  have same : s.bare.position = s.position := rfl
  rw [same]
  split <;> rfl

/-- **Without its subscribers, the machine takes a poll as it does with them.** -/
theorem bare_poll (stopping : Bool) (ready : Option Event) :
    bareReaction (s.poll settings subscription stopping ready) =
      s.bare.poll settings noSubscription stopping ready := by
  unfold poll
  cases stopping with
  | true => exact bare_stop
  | false =>
      rw [if_neg Bool.false_ne_true, if_neg Bool.false_ne_true]
      have same : s.bare.position = s.position := rfl
      rw [same]
      split
      next => rfl
      next => rfl
      next => exact bare_take _
      next => rfl

/-! ## Runs -/

/-- What a move means for a machine without subscribers: only polls count. -/
def Move.bare? : Move β τ → Option (Move Unit Unit)
  | .poll stopping ready => some (.poll stopping ready)
  | _ => none

theorem bare_run (moves : List (Move β τ)) (s : Supervisor β τ) :
    bareReaction (run settings subscription moves s) =
      run settings noSubscription (moves.filterMap Move.bare?) s.bare := by
  induction moves generalizing s with
  | nil => rfl
  | cons m rest ih =>
      have split : bareReaction (run settings subscription (m :: rest) s) =
          ((bareReaction (run settings subscription rest (s.move settings subscription m).1)).1,
            (bareReaction (s.move settings subscription m)).2 ++
              (bareReaction
                (run settings subscription rest (s.move settings subscription m).1)).2) := by
        rw [run_cons]
        exact congrArg (Prod.mk _) List.map_append
      rw [split, ih]
      cases m with
      | register | deregister | remember =>
          -- Without subscribers there is nothing to change.
          rfl
      | poll stopping ready =>
          have polled : bareReaction (s.move settings subscription (.poll stopping ready)) =
              s.bare.move settings noSubscription (.poll stopping ready) :=
            bare_poll stopping ready
          show _ = run settings noSubscription (.poll stopping ready :: _) s.bare
          rw [run_cons, ← polled]
          rfl

/-- **A run depends on its polls only**, but for what subscribers can touch: the registry, what they
remember, and the total of failed calls. -/
theorem bareReaction_run_eq {β' τ' : Type} (settings : SyncSettings)
    (subscription : Subscription β τ) (other : Subscription β' τ') (words : List UInt64)
    (memory : τ) (memory' : τ') {moves : List (Move β τ)} {moves' : List (Move β' τ')}
    (same : moves'.filterMap Move.bare? = moves.filterMap Move.bare?) :
    bareReaction (run settings other moves' (start words memory')) =
      bareReaction (run settings subscription moves (start words memory)) := by
  rw [bare_run, bare_run, same]
  rfl

end Supervisor
end HexWorld
