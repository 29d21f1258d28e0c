import HexWorld.Proofs.Sync.Chronicle
import HexWorld.Proofs.Sync.Course
import HexWorld.Proofs.Sync.Erasure
import HexWorld.Proofs.Sync.Registry

/-!
# `Proofs.Sync.Notification` — who is called during a run

A run is watched by noting down every change of the registry, every notification and every call,
also those that happen inside a call. To see the calls of a poll, the subscribers are given a sheet
beside what they remember, on which their calls are noted; the poll is no other for that. The notes
of a run are orderly, so everyone is called with what is due.

## Contents
- `Position.accepted?`: the polls that call anybody, with `accepted?_item_eq_some_iff`, the items
  that are accepted; and `Untouched`, what all other polls leave alone.
- `Supervisor.noting`, `poll_noting`: a poll under notes.
- `Supervisor.runNotes`, `Noted`: the notes of a run.
- `called_exactly_once`.
-/

namespace HexWorld

/-- The notification that an effect is. -/
def Effect.pass? {β : Type} : Effect → Option (Note β)
  | .notify s _ => some (.pass s)
  | _ => none

/-- The snapshots of a log that updates have made. The first snapshot of a session has no entities
yet. -/
def updates (log : List Effect) : List Snapshot :=
  (stored log).filter (·.isInitialized)

theorem updates_append (log effects : List Effect) :
    updates (log ++ effects) = updates log ++ updates effects := by
  unfold updates
  rw [stored_append, List.filter_append]

/-- The snapshot that a poll publishes because it accepts an update. -/
def Position.accepted? : Position → Bool → Option Event → Option Snapshot
  | .streaming current, false, some (.item (some (.ok m))) =>
    match Update.ofMessage m with
    | .ok update => (current.apply update).toOption
    | .error _ => none
  | _, _, _ => none

/-- An item is accepted if its message is valid and makes the next snapshot. -/
theorem Position.accepted?_item_eq_some_iff {current next : Snapshot}
    {item : Except SourceError EntitiesMessage} :
    accepted? (.streaming current) false (some (.item (some item))) = some next ↔
      ∃ m update, item = .ok m ∧ Update.ofMessage m = .ok update ∧
        current.apply update = .ok next := by
  cases item with
  | error e => simp [accepted?]
  | ok m =>
      cases valid : Update.ofMessage m with
      | error e => simp [accepted?, valid]
      | ok update =>
          cases applied : current.apply update <;>
            simp [accepted?, valid, applied, Except.toOption]

namespace Supervisor

variable {β τ : Type} {settings : SyncSettings} {subscription : Subscription β τ}
  {s : Supervisor β τ} {stopping : Bool} {ready : Option Event}

variable (settings subscription) in
/-- A poll with an update to accept accepts it. -/
theorem poll_of_accepted {next : Snapshot}
    (h : s.position.accepted? stopping ready = some next) :
    s.poll settings subscription stopping ready = s.accept subscription next ∧
      next.isInitialized = true := by
  unfold Position.accepted? at h
  split at h
  next current m position =>
    cases read : Update.ofMessage m with
    | error e => simp [read] at h
    | ok update =>
        simp only [read] at h
        cases applied : current.apply update with
        | error e =>
            rw [applied] at h
            cases h
        | ok after =>
            rw [applied] at h
            cases h
            refine ⟨by simp [poll, take, receive, position, read, applied], ?_⟩
            obtain ⟨-, -, rfl⟩ := Snapshot.apply_eq_ok_iff.mp applied
            rfl
  next => cases h

/-- The reaction calls nobody and publishes no update. -/
structure Untouched (s : Supervisor β τ) (r : Supervisor β τ × List Effect) : Prop where
  registry : r.1.hub.registry = s.hub.registry
  memory : r.1.hub.memory = s.hub.memory
  callbackFailures : r.1.hub.counters.callbackFailures = s.hub.counters.callbackFailures
  uncalled : r.2.filterMap (Effect.pass? (β := β)) = []
  unpublished : updates r.2 = []

theorem Untouched.fail (policy : Backoff) (e : SourceError) : Untouched s (s.fail policy e) := by
  rcases fail_cases policy e s with ⟨-, h⟩ | ⟨-, -, h⟩ | ⟨-, -, h⟩ <;>
    rw [h] <;> exact ⟨rfl, rfl, rfl, rfl, rfl⟩

theorem Untouched.stop : Untouched s s.stop := by
  unfold Supervisor.stop
  split <;> exact ⟨rfl, rfl, rfl, rfl, rfl⟩

/-- Any other poll calls nobody. -/
theorem poll_untouched (h : s.position.accepted? stopping ready = none) :
    Untouched s (s.poll settings subscription stopping ready) := by
  have step : Step settings subscription s stopping ready
    (s.poll settings subscription stopping ready) := step_poll stopping ready
  generalize s.poll settings subscription stopping ready = r at step
  cases step with
  | accepted position valid applied =>
      simp [Position.accepted?, position, valid, applied, Except.toOption] at h
  | broken => exact .fail settings.policy _
  | stopped => exact .stop
  | bootstrapped => exact ⟨rfl, rfl, rfl, rfl, rfl⟩
  | rest | began | woken | connecting | connected | crashed | listed | subscribed | late =>
      exact ⟨rfl, rfl, rfl, rfl, rfl⟩

theorem map_bare_of_no_pass {effects : List Effect}
    (none : effects.filterMap (Effect.pass? (β := β)) = []) :
    effects.map Effect.bare = effects := by
  rw [List.filterMap_eq_nil_iff] at none
  have same : ∀ e ∈ effects, e.bare = id e := by
    intro e he
    cases e with
    | notify => cases none _ he
    | phase | connect | store | sleep => rfl
  rw [List.map_congr_left same, List.map_id]

/-- A reaction that calls nobody is known by what it is without subscribers. -/
theorem Untouched.eq_of_bare {r r' : Supervisor β τ × List Effect} (h : Untouched s r)
    (h' : Untouched s r') (same : bareReaction r = bareReaction r') : r = r' := by
  obtain ⟨⟨position, session, failures, words, ⟨current, registry, phase, counters, memory⟩⟩,
    effects⟩ := r
  obtain ⟨⟨position', session', failures', words', ⟨current', registry', phase', counters',
    memory'⟩⟩, effects'⟩ := r'
  simp only [bareReaction, bare, Prod.mk.injEq, Supervisor.mk.injEq, Hub.mk.injEq] at same
  obtain ⟨⟨rfl, rfl, rfl, rfl, rfl, -, rfl, totals, -⟩, logs⟩ := same
  have same_registry : registry = registry' := h.registry.trans h'.registry.symm
  have same_memory : memory = memory' := h.memory.trans h'.memory.symm
  have same_effects : effects = effects' :=
    (map_bare_of_no_pass h.uncalled).symm.trans (logs.trans (map_bare_of_no_pass h'.uncalled))
  have same_counters : counters = counters' := by
    have failed := h.callbackFailures.trans h'.callbackFailures.symm
    cases counters
    cases counters'
    simp_all [Counters.bare]
  rw [same_registry, same_memory, same_effects, same_counters]

/-! ## The notes of a run -/

/-- The machine with an empty sheet for notes beside what its subscribers remember. -/
def noting (s : Supervisor β τ) : Supervisor β (τ × List (Note β)) :=
  ⟨s.position, s.session, s.failures, s.words,
    ⟨s.hub.current, s.hub.registry, s.hub.phase, s.hub.counters, (s.hub.memory, [])⟩⟩

/-- The machine without the sheet. -/
def unnoted (s : Supervisor β (τ × List (Note β))) : Supervisor β τ :=
  ⟨s.position, s.session, s.failures, s.words,
    ⟨s.hub.current, s.hub.registry, s.hub.phase, s.hub.counters, s.hub.memory.1⟩⟩

/-- What has been noted in a poll: the notification, and then the calls. -/
def sheet (r : Supervisor β (τ × List (Note β)) × List Effect) : List (Note β) :=
  r.2.filterMap Effect.pass? ++ r.1.hub.memory.2

/-- What is noted of one move: a change of the registry, or the notification of a poll. -/
def moveNotes (settings : SyncSettings) (c : Conduct β τ) (s : Supervisor β τ) :
    Move β τ → List (Note β)
  | .register b => [s.hub.registry.note (.register b)]
  | .deregister id => [s.hub.registry.note (.deregister id)]
  | .remember _ => []
  | .poll stopping ready => sheet (s.noting.poll settings c.noted stopping ready)

/-- The notes of a run. -/
def runNotes (settings : SyncSettings) (c : Conduct β τ) (moves : List (Move β τ))
    (s : Supervisor β τ) : List (Note β) :=
  trace settings c.subscription (moveNotes settings c) moves s

variable {c : Conduct β τ} {notes : List (Note β)}

/-- A notification, noted down. -/
theorem accept_noting (h : Ledger notes s.hub.registry) (next : Snapshot) :
    let r := s.noting.accept c.noted next
    (r.1.unnoted, r.2) = s.accept c.subscription next ∧
    Ledger (notes ++ .pass next :: r.1.hub.memory.2) r.1.hub.registry ∧
    r.1.hub.memory.2.filter (·.isCalled) = (live notes).map (.called · next (some next)) ∧
    ∀ n ∈ r.1.hub.memory.2, n.isPass = false := by
  have begun : Ledger (notes ++ [.pass next]) s.hub.registry := h.silent rfl rfl
  obtain ⟨more, same, ledger, calls, inner⟩ := callAll_noted c (some next) next
    s.hub.registry.entries begun s.hub.memory [] .none
  have entries : s.hub.registry.entries = live notes := h.entries.symm
  intro r
  have noted : r = s.noting.accept c.noted next := rfl
  simp only [accept, Hub.notify, Registry.notify, noting, count, Hub.store, same] at noted
  rw [List.nil_append] at noted
  rw [noted]
  refine ⟨rfl, ?_, ?_, inner⟩
  · rw [List.append_assoc] at ledger
    exact ledger
  · rw [← entries]
    exact calls

variable (settings c) in
/-- **Noting changes nothing.** A poll under notes is the poll; if it calls nobody it notes nothing,
and otherwise it notes who is called. -/
theorem poll_noting (h : Ledger notes s.hub.registry) (stopping : Bool) (ready : Option Event) :
    let r := s.noting.poll settings c.noted stopping ready
    (r.1.unnoted, r.2) = s.poll settings c.subscription stopping ready ∧
    (Untouched s.noting r ∨
      ∃ next, next.isInitialized = true ∧ r = s.noting.accept c.noted next) := by
  intro r
  cases accepted : s.position.accepted? stopping ready with
  | some next =>
      have noted : r = s.noting.accept c.noted next :=
        (poll_of_accepted settings c.noted (s := s.noting) accepted).1
      obtain ⟨plain, initialized⟩ := poll_of_accepted settings c.subscription accepted
      rw [noted, plain]
      exact ⟨(accept_noting h next).1, .inr ⟨next, initialized, rfl⟩⟩
  | none =>
      -- The poll is the same without subscribers, and it leaves alone what belongs to them.
      have noted : Untouched s.noting r := poll_untouched accepted
      refine ⟨?_, .inl noted⟩
      have unnoted : Untouched s (r.1.unnoted, r.2) :=
        ⟨noted.registry, congrArg Prod.fst noted.memory, noted.callbackFailures, noted.uncalled,
          noted.unpublished⟩
      refine unnoted.eq_of_bare (poll_untouched accepted) ?_
      rw [bare_poll]
      exact bare_poll (s := s.noting) stopping ready

/-- The notes of a run that has led here with this log. -/
structure Noted (s : Supervisor β τ) (log : List Effect) (notes : List (Note β)) : Prop where
  ledger : Ledger notes s.hub.registry
  orderly : Orderly notes
  published : passes notes = updates log

namespace Noted

variable {log : List Effect}

theorem change (h : Noted s log notes) (ch : Change β) :
    Noted (s.withRegistry (s.hub.registry.change ch)) (log ++ [])
      (notes ++ [s.hub.registry.note ch]) := by
  obtain ⟨uncalled, between⟩ := note_isChange s.hub.registry ch
  refine ⟨h.ledger.change ch, h.orderly.change uncalled between, ?_⟩
  rw [List.append_nil, passes_append, h.published]
  cases ch <;> exact List.append_nil _

theorem poll (h : Noted s log notes) (settings : SyncSettings) (c : Conduct β τ) (stopping : Bool)
    (ready : Option Event) :
    Noted (s.poll settings c.subscription stopping ready).1
      (log ++ (s.poll settings c.subscription stopping ready).2)
      (notes ++ s.moveNotes settings c (.poll stopping ready)) := by
  obtain ⟨same, kind⟩ := poll_noting settings c h.ledger stopping ready
  rw [← same]
  show Noted _ _ (notes ++ sheet (s.noting.poll settings c.noted stopping ready))
  generalize s.noting.poll settings c.noted stopping ready = r at kind
  rcases kind with untouched | ⟨next, initialized, rfl⟩
  · -- Nobody is called, and nothing is noted.
    have blank : sheet r = [] := by
      rw [sheet, untouched.uncalled, untouched.memory]
      rfl
    have kept : r.1.unnoted.hub.registry = s.hub.registry := untouched.registry
    rw [blank, List.append_nil]
    refine ⟨kept ▸ h.ledger, h.orderly, ?_⟩
    rw [updates_append, untouched.unpublished, List.append_nil]
    exact h.published
  · obtain ⟨-, ledger, calls, inner⟩ := accept_noting (c := c) h.ledger next
    refine ⟨ledger, h.orderly.pass calls inner, ?_⟩
    have one : updates (s.noting.accept c.noted next).2 = [next] :=
      List.filter_cons_of_pos initialized
    have none : passes (s.noting.accept c.noted next).1.hub.memory.2 = [] :=
      passes_of_inner inner
    show passes (notes ++ .pass next :: (s.noting.accept c.noted next).1.hub.memory.2) = _
    rw [updates_append, one, passes_append, h.published]
    show _ ++ next :: passes (s.noting.accept c.noted next).1.hub.memory.2 = _
    rw [none]

theorem move (h : Noted s log notes) (settings : SyncSettings) (c : Conduct β τ) (m : Move β τ) :
    Noted (s.move settings c.subscription m).1 (log ++ (s.move settings c.subscription m).2)
      (notes ++ s.moveNotes settings c m) := by
  cases m with
  | poll stopping ready => exact h.poll settings c stopping ready
  | register b => exact h.change (.register b)
  | deregister id => exact h.change (.deregister id)
  | remember change =>
      show Noted _ (log ++ []) (notes ++ [])
      rw [List.append_nil, List.append_nil]
      exact ⟨h.ledger, h.orderly, h.published⟩

end Noted

/-! ## Runs -/

theorem noted_run (settings : SyncSettings) (c : Conduct β τ) (words : List UInt64) (memory : τ)
    (moves : List (Move β τ)) :
    Noted (run settings c.subscription moves (start words memory)).1
      (run settings c.subscription moves (start words memory)).2
      (runNotes settings c moves (start words memory)) := by
  refine trace_induction (P := Noted) ⟨.empty, .start, rfl⟩ ?_
  exact fun s log notes m _ h => h.move settings c m

/-- **Everyone who is registered is called with every update, once and in order**, whatever the
source does, and whoever registers or removes whom between two polls or during a call. Notifications
are for the snapshots that updates make, in order; each calls whoever is registered when it begins,
while the store holds its snapshot; and nobody is called otherwise. So a number is called with the
snapshots whose notification begins while it is registered, each newer than the one before. How
calls end, and what they do, makes no difference to what is published and shown, and to all totals
but that of failed calls. -/
theorem called_exactly_once (settings : SyncSettings) (c : Conduct β τ) (words : List UInt64)
    (memory : τ) (moves : List (Move β τ)) :
    let r := run settings c.subscription moves (start words memory)
    let notes := runNotes settings c moves (start words memory)
    live notes = r.1.hub.registry.entries ∧
    passes notes = updates r.2 ∧
    callsNow notes = [] ∧
    (∀ past s rest, notes = past ++ .pass s :: rest →
      callsNow rest = (live past).map (.called · s (some s))) ∧
    (begun r.2 < UInt64.size → (passes notes).Pairwise Snapshot.Before) ∧
    ((registeredIds notes).length ≤ UInt64.size → ∀ id,
      callsOf id notes = due id false notes ∧
      (begun r.2 < UInt64.size → (callsOf id notes).Pairwise Snapshot.Before)) ∧
    ∀ other : Subscription β τ,
      let r' := run settings other moves (start words memory)
      stored r'.2 = stored r.2 ∧ phases r'.2 = phases r.2 ∧ r'.1.position = r.1.position ∧
      r'.1.hub.counters.bare = r.1.hub.counters.bare := by
  intro r notes
  have h : Noted r.1 r.2 notes := noted_run settings c words memory moves
  have ordered (fits : begun r.2 < UInt64.size) : (passes notes).Pairwise Snapshot.Before := by
    rw [h.published]
    exact (chronicle_run settings c.subscription words memory moves fits).ordered.filter _
  refine ⟨h.ledger.entries, h.published, h.orderly.callsNow_eq_nil, ?_, ordered, ?_, ?_⟩
  · exact fun past s rest => h.orderly.calls_of_pass
  · intro enough id
    have exact_calls := h.orderly.callsOf_eq_due (h.ledger.nodup_registered enough) id
    refine ⟨exact_calls, fun fits => ?_⟩
    rw [exact_calls]
    exact (ordered fits).sublist (due_sublist_passes id false notes)
  · intro other r'
    have same : bareReaction r' = bareReaction r :=
      bareReaction_run_eq settings c.subscription other words memory memory rfl
    have logs : r'.2.map Effect.bare = r.2.map Effect.bare := congrArg Prod.snd same
    have read {α : Type} {f : Effect → Option α} (blind : ∀ e, f e.bare = f e) :
        r'.2.filterMap f = r.2.filterMap f := by
      rw [← filterMap_bare blind, logs, filterMap_bare blind]
    refine ⟨read ?_, read ?_, congrArg (·.1.position) same, congrArg (·.1.hub.counters) same⟩ <;>
      exact fun e => by cases e <;> rfl

/-- The first subscriber registers another at the first tick, and panics; the other removes the
first one, and fails. -/
def successors : Conduct Nat Unit where
  changes _ s e _ :=
    if e.subscriber = 0 then (if s.worldTime = 5 then [.register 1] else []) else [.deregister 1]
  memory _ _ _ _ := ()
  outcome _ _ e _ := if e.subscriber = 0 then .panicked else .failed

/-- One session with three ticks. -/
def threeTicks : List (Move Nat Unit) :=
  [.register 0, .poll false none] ++ opening [⟨0, 0⟩] ++
    [.hear (tick 5 ⟨0, 0⟩ []), .hear (tick 6 ⟨0, 0⟩ []), .hear (tick 7 ⟨0, 0⟩ [])]

theorem called_exactly_once_successors :
    let r := run plainSettings successors.subscription threeTicks (start [] ())
    let notes := runNotes plainSettings successors threeTicks (start [] ())
    begun r.2 < UInt64.size ∧ (registeredIds notes).length ≤ UInt64.size ∧
    (callsOf 1 notes).map (·.worldTime) = [5, 6] ∧ (callsOf 2 notes).map (·.worldTime) = [6, 7] ∧
    callsOf 2 notes = due 2 false notes ∧ (callsOf 2 notes).Pairwise Snapshot.Before := by
  intro r notes
  have fits : begun r.2 < UInt64.size := by decide +kernel
  have enough : (registeredIds notes).length ≤ UInt64.size := by decide +kernel
  obtain ⟨-, -, -, -, -, exact_calls, -⟩ :=
    called_exactly_once plainSettings successors [] () threeTicks
  obtain ⟨due_calls, ordered⟩ := exact_calls enough 2
  exact ⟨fits, enough, by decide +kernel, by decide +kernel, due_calls, ordered fits⟩

end Supervisor
end HexWorld
