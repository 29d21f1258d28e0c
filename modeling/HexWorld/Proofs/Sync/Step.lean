import HexWorld.Sync.Supervisor

/-!
# `Proofs.Sync.Step` — everything one poll of the machine can do

`Supervisor.poll` dispatches on the position, the event and the results of several checks. Proofs
about runs never open it: they open `Step`, which has one constructor for each thing that can
happen, with all that is known when it happens.

## Contents
- `Breaks`: the events that end a session, each with its failure.
- `Step` and `step_poll`: the case analysis of a poll; `poll_of_ended` and `poll_of_breaks`.
- `fail_of_final`, `fail_of_allowed`, `fail_of_forbidden` and `fail_cases`: the three ways in which
  a failure is taken.
- `Quietly` and `publication_cases`: the steps that publish, and all others.
-/

namespace HexWorld

/-! ## Positions and effects -/

/-- The latest snapshot of a session that has got its first one. -/
def Position.current? : Position → Option Snapshot
  | .subscribing current | .streaming current => some current
  | _ => none

/-- A session has begun and the world has not been described yet. -/
def Position.IsOpening : Position → Prop
  | .connecting | .listing | .placing _ => True
  | _ => False

/-- No session goes on, and none begins with the next poll. -/
def Position.IsHalted : Position → Prop
  | .sleeping | .ended _ => True
  | _ => False

/-- The effect begins no session and publishes nothing. -/
def Effect.IsQuiet : Effect → Prop
  | .phase _ | .sleep _ => True
  | _ => False

namespace Supervisor

variable {β τ : Type}

/-! ## Failures of a session -/

/-- The event ends the session that waits for it at this position, by this failure. -/
inductive Breaks (timeout : Duration) : Position → Event → SourceError → Prop where
  | refused {result e} (failed : result.ofConnect = .error e) :
      Breaks timeout .connecting (.connected result) e
  | unlisted {result e} (failed : result.ofRequest "ListRooms" timeout = .error e) :
      Breaks timeout .listing (.listed result) e
  | unplaced {rooms result e} (failed : result.ofRequest "GetRoomLayout" timeout = .error e) :
      Breaks timeout (.placing rooms) (.placed result) e
  | malformed {rooms result layout e}
      (answered : result.ofRequest "GetRoomLayout" timeout = .ok layout)
      (refuted : Bootstrap.ofReplies rooms layout = .error e) :
      Breaks timeout (.placing rooms) (.placed result) e
  | unsubscribed {current result e}
      (failed : result.ofRequest "SubscribeEntities" timeout = .error e) :
      Breaks timeout (.subscribing current) (.subscribed result) e
  | faulty {current e} : Breaks timeout (.streaming current) (.item (some (.error e))) e
  | unreadable {current m e} (refuted : Update.ofMessage m = .error e) :
      Breaks timeout (.streaming current) (.item (some (.ok m))) e
  | undeclared {current m update room} (valid : Update.ofMessage m = .ok update)
      (refuted : current.apply update = .error (.unknownRoom room)) :
      Breaks timeout (.streaming current) (.item (some (.ok m)))
        (.protocol (ApplyError.unknownRoom room).message)
  | closed {current} : Breaks timeout (.streaming current) (.item none) .streamEnded

theorem Breaks.not_isHalted {timeout : Duration} {p : Position} {e : Event} {failure : SourceError}
    (breaks : Breaks timeout p e failure) : ¬p.IsHalted := by
  cases breaks <;> exact id

/-! ## The case analysis of a poll -/

/-- Another total of late messages, after one more of them. -/
def countStale (s : Supervisor β τ) : Supervisor β τ :=
  s.count fun c => { c with staleUpdates := c.staleUpdates + 1 }

/-- What a poll of `s` can do, given whether a stop is requested and what has come. -/
inductive Step (settings : SyncSettings) (subscription : Subscription β τ) (s : Supervisor β τ) :
    Bool → Option Event → Supervisor β τ × List Effect → Prop where
  /-- There is nothing to do, or the event is none that the machine waits for. -/
  | rest {stopping ready} : Step settings subscription s stopping ready (s, [])
  | stopped {ready} : Step settings subscription s true ready s.stop
  | began {ready} (position : s.position = .idle) :
      Step settings subscription s false ready s.beginRound
  | woken (position : s.position = .sleeping) :
      Step settings subscription s false (some .woken) s.beginRound
  | connecting {ready} (position : s.position = .beginning) :
      Step settings subscription s false ready s.beginSession
  | connected {result} (position : s.position = .connecting) (opened : result.ofConnect = .ok ()) :
      Step settings subscription s false (some (.connected result)) (s.moveTo .listing)
  | crashed {detail} (position : s.position = .connecting) :
      Step settings subscription s false (some (.panicked detail))
        (s.moveTo (.ended (.crashed detail)))
  | listed {result rooms} (position : s.position = .listing)
      (answered : result.ofRequest "ListRooms" settings.requestTimeout = .ok rooms) :
      Step settings subscription s false (some (.listed result)) (s.moveTo (.placing rooms))
  | bootstrapped {rooms result layout b} (position : s.position = .placing rooms)
      (answered : result.ofRequest "GetRoomLayout" settings.requestTimeout = .ok layout)
      (valid : Bootstrap.ofReplies rooms layout = .ok b) :
      Step settings subscription s false (some (.placed result)) (s.publishFirst b)
  | subscribed {current result} (position : s.position = .subscribing current)
      (answered : result.ofRequest "SubscribeEntities" settings.requestTimeout = .ok ()) :
      Step settings subscription s false (some (.subscribed result))
        (s.enter (.streaming current) (.streaming s.session))
  | accepted {current m update next} (position : s.position = .streaming current)
      (valid : Update.ofMessage m = .ok update) (applied : current.apply update = .ok next) :
      Step settings subscription s false (some (.item (some (.ok m)))) (s.accept subscription next)
  | late {current m update worldTime latest} (position : s.position = .streaming current)
      (valid : Update.ofMessage m = .ok update)
      (refuted : current.apply update = .error (.stale worldTime latest)) :
      Step settings subscription s false (some (.item (some (.ok m)))) (s.countStale, [])
  | broken {e failure} (breaks : Breaks settings.requestTimeout s.position e failure) :
      Step settings subscription s false (some e) (s.fail settings.policy failure)

variable {settings : SyncSettings} {subscription : Subscription β τ} {s : Supervisor β τ}

/-- Taking a message of the subscription is a step. -/
theorem step_receive {current : Snapshot} (position : s.position = .streaming current)
    (m : EntitiesMessage) :
    Step settings subscription s false (some (.item (some (.ok m))))
      (s.receive settings.policy subscription current m) := by
  unfold receive
  cases valid : Update.ofMessage m with
  | error e =>
      have breaks : Breaks settings.requestTimeout (.streaming current) (.item (some (.ok m))) e :=
        .unreadable valid
      exact .broken (position ▸ breaks)
  | ok update =>
      simp only
      cases applied : current.apply update with
      | ok next => exact .accepted position valid applied
      | error refusal =>
          -- A late message is only counted; one about an undeclared room ends the session.
          cases refusal with
          | stale worldTime latest => exact .late position valid applied
          | unknownRoom room =>
              have breaks : Breaks settings.requestTimeout (.streaming current)
                  (.item (some (.ok m))) (.protocol (ApplyError.unknownRoom room).message) :=
                .undeclared valid applied
              exact .broken (position ▸ breaks)

/-- Taking what the machine waited for is a step. -/
theorem step_take (e : Event) :
    Step settings subscription s false (some e) (s.take settings subscription e) := by
  have broken {p : Position} {failure : SourceError} (position : s.position = p)
      (breaks : Breaks settings.requestTimeout p e failure) :
      Step settings subscription s false (some e) (s.fail settings.policy failure) :=
    .broken (position ▸ breaks)
  unfold take
  split
  case h_1 result position =>
    cases opened : result.ofConnect with
    | ok => exact .connected position opened
    | error failure => exact broken position (.refused opened)
  case h_2 detail position => exact .crashed position
  case h_3 result position =>
    cases answered : result.ofRequest "ListRooms" settings.requestTimeout with
    | ok rooms => exact .listed position answered
    | error failure => exact broken position (.unlisted answered)
  case h_4 rooms result position =>
    cases answered : result.ofRequest "GetRoomLayout" settings.requestTimeout with
    | error failure => exact broken position (.unplaced answered)
    | ok layout =>
        cases valid : Bootstrap.ofReplies rooms layout with
        | ok b =>
            simp only [valid]
            exact .bootstrapped position answered valid
        | error failure =>
            simp only [valid]
            exact broken position (.malformed answered valid)
  case h_5 current result position =>
    cases answered : result.ofRequest "SubscribeEntities" settings.requestTimeout with
    | ok => exact .subscribed position answered
    | error failure => exact broken position (.unsubscribed answered)
  case h_6 current item position =>
    cases item with
    | ok m => exact step_receive position m
    | error failure => exact broken position .faulty
  case h_7 current position => exact broken position .closed
  case h_8 position => exact .woken position
  case h_9 => exact .rest

/-- **Every poll is a step.** -/
theorem step_poll (stopping : Bool) (ready : Option Event) :
    Step settings subscription s stopping ready (s.poll settings subscription stopping ready) := by
  unfold poll
  cases stopping with
  | true => exact .stopped
  | false =>
      rw [if_neg Bool.false_ne_true]
      split
      · exact .began ‹_›
      · exact .connecting ‹_›
      · exact step_take _
      · exact .rest

/-- A machine that has ended is polled in vain. -/
theorem poll_of_ended {ending : Ending} (position : s.position = .ended ending) (stopping : Bool)
    (ready : Option Event) : s.poll settings subscription stopping ready = (s, []) := by
  cases stopping with
  | true => simp only [poll, stop, position, if_true]
  | false => cases ready <;> simp [poll, take, position]

/-- An event that ends the session is taken as a failure. -/
theorem poll_of_breaks {e : Event} {failure : SourceError}
    (breaks : Breaks settings.requestTimeout s.position e failure) :
    s.poll settings subscription false (some e) = s.fail settings.policy failure := by
  obtain ⟨position, same⟩ : ∃ p, s.position = p := ⟨_, rfl⟩
  rw [same] at breaks
  cases breaks with
  | refused failed | unlisted failed | unplaced failed | unsubscribed failed =>
      simp [poll, take, same, failed]
  | malformed answered refuted => simp [poll, take, same, answered, refuted]
  | faulty | closed => simp [poll, take, same]
  | unreadable refuted => simp [poll, take, receive, same, refuted]
  | undeclared valid refuted => simp [poll, take, receive, same, valid, refuted]

/-! ## How a failure is taken -/

/-- The machine after one more failure that may go away by itself. -/
def countFailure (s : Supervisor β τ) : Supervisor β τ :=
  let s := { s with failures := Saturating.next32 s.failures }
  s.count fun c => { c with retryableFailures := c.retryableFailures + 1 }

/-- The wait before the next session. -/
def backOff (policy : Backoff) (s : Supervisor β τ) : Supervisor β τ × List Effect :=
  let (delay, words) := policy.delay (s.failures - 1) s.words
  let phase := Phase.backoff s.failures delay
  ({ s with position := .sleeping, words, hub := { s.hub with phase } },
    [.phase phase, .sleep delay])

theorem fail_of_final {policy : Backoff} {e : SourceError} (final : e.isRetryable = false) :
    s.fail policy e = s.finish (.error (.nonRetryable e)) := by
  unfold fail
  exact if_neg (Bool.eq_false_iff.mp final)

theorem fail_of_allowed {policy : Backoff} {e : SourceError} (retryable : e.isRetryable = true)
    (allowed : policy.allowsRetry (Saturating.next32 s.failures) = true) :
    s.fail policy e = s.countFailure.backOff policy := by
  unfold fail
  rw [if_pos retryable]
  exact if_pos allowed

theorem fail_of_forbidden {policy : Backoff} {e : SourceError} (retryable : e.isRetryable = true)
    (forbidden : policy.allowsRetry (Saturating.next32 s.failures) = false) :
    s.fail policy e =
      s.countFailure.finish (.error (.retriesExhausted (Saturating.next32 s.failures) e)) := by
  unfold fail
  rw [if_pos retryable]
  exact if_neg (Bool.eq_false_iff.mp forbidden)

/-- A failure is final, or it is waited out, or it was one too many. -/
theorem fail_cases (policy : Backoff) (e : SourceError) (s : Supervisor β τ) :
    (e.isRetryable = false ∧ s.fail policy e = s.finish (.error (.nonRetryable e))) ∨
    (e.isRetryable = true ∧ policy.allowsRetry (Saturating.next32 s.failures) = true ∧
      s.fail policy e = s.countFailure.backOff policy) ∨
    (e.isRetryable = true ∧ policy.allowsRetry (Saturating.next32 s.failures) = false ∧
      s.fail policy e =
        s.countFailure.finish (.error (.retriesExhausted (Saturating.next32 s.failures) e))) := by
  cases retryable : e.isRetryable with
  | false => exact .inl ⟨rfl, fail_of_final retryable⟩
  | true =>
      cases allowed : policy.allowsRetry (Saturating.next32 s.failures) with
      | true => exact .inr (.inl ⟨rfl, rfl, fail_of_allowed retryable allowed⟩)
      | false => exact .inr (.inr ⟨rfl, rfl, fail_of_forbidden retryable allowed⟩)

/-- A failure ends the session. -/
theorem isHalted_fail (policy : Backoff) (e : SourceError) (s : Supervisor β τ) :
    (s.fail policy e).1.position.IsHalted := by
  rcases fail_cases policy e s with ⟨-, h⟩ | ⟨-, -, h⟩ | ⟨-, -, h⟩ <;> rw [h] <;> trivial

/-! ## Steps that publish, and all others

Most steps touch neither the session number nor the store. What is left are three: a session begins,
it publishes its first snapshot, it publishes the snapshot after an update. -/

/-- The reaction begins no session and publishes nothing. -/
structure Quietly (s : Supervisor β τ) (r : Supervisor β τ × List Effect) : Prop where
  effects : ∀ e ∈ r.2, e.IsQuiet
  session : r.1.session = s.session
  current : r.1.hub.current = s.hub.current
  /-- The session that goes on is the one that was there. -/
  position : ∀ c, r.1.position.current? = some c → s.position.current? = some c
  opening : r.1.position.IsOpening → s.position.IsOpening

namespace Quietly

theorem rest : Quietly s (s, []) where
  effects := List.forall_mem_nil _
  session := rfl
  current := rfl
  position _ h := h
  opening h := h

/-- Showing a phase on the way to a position from which no session goes on. -/
theorem enter {p : Position} (phase : Phase) (closed : p.current? = none) (idle : ¬p.IsOpening) :
    Quietly s (s.enter p phase) where
  effects e he := by
    rw [List.mem_singleton.mp he]
    trivial
  session := rfl
  current := rfl
  position c h := by
    have going : p.current? = some c := h
    rw [closed] at going
    cases going
  opening h := absurd h idle

theorem finish (outcome : Except FatalError Unit) : Quietly s (s.finish outcome) :=
  enter .stopped rfl id

theorem beginRound : Quietly s s.beginRound :=
  enter (.bootstrapping s.failures) rfl id

theorem fail (policy : Backoff) (e : SourceError) : Quietly s (s.fail policy e) := by
  rcases fail_cases policy e s with ⟨-, h⟩ | ⟨-, -, h⟩ | ⟨-, -, h⟩
  · rw [h]
    exact finish _
  · rw [h]
    refine ⟨?_, rfl, rfl, ?_, ?_⟩
    · intro e he
      simp only [backOff, List.mem_cons, List.not_mem_nil, or_false] at he
      rcases he with rfl | rfl <;> trivial
    · intro c hc
      cases hc
    · exact False.elim
  · rw [h]
    -- The machine that ends has one more failure than `s`, and agrees with it in all that counts.
    obtain ⟨effects, session, current, -, -⟩ :=
      finish (s := s.countFailure) (.error (.retriesExhausted (Saturating.next32 s.failures) e))
    refine ⟨effects, session, current, ?_, False.elim⟩
    intro c hc
    cases hc

theorem stop : Quietly s s.stop := by
  unfold Supervisor.stop
  split
  · exact rest
  · -- A machine that was never polled shows two phases at once.
    refine ⟨?_, rfl, rfl, ?_, False.elim⟩
    · intro e he
      rcases List.mem_append.mp he with he | he
      · exact (beginRound (s := s)).effects e he
      · exact (finish (s := s.beginRound.1) (.ok ())).effects e he
    · intro c hc
      cases hc
  · exact finish _

/-- Going on inside a session. -/
theorem moveTo {p : Position} (position : ∀ c, p.current? = some c → s.position.current? = some c)
    (opening : p.IsOpening → s.position.IsOpening) : Quietly s (s.moveTo p) :=
  ⟨List.forall_mem_nil _, rfl, rfl, position, opening⟩

end Quietly

/-- **A step publishes nothing, or begins a session, or publishes its first snapshot, or publishes
the snapshot after an update.** -/
theorem publication_cases {stopping : Bool} {ready : Option Event}
    {r : Supervisor β τ × List Effect} (h : Step settings subscription s stopping ready r) :
    Quietly s r ∨ r = s.beginSession ∨
    (∃ rooms result layout b, s.position = .placing rooms ∧
      result.ofRequest "GetRoomLayout" settings.requestTimeout = .ok layout ∧
      Bootstrap.ofReplies rooms layout = .ok b ∧ stopping = false ∧
      ready = some (.placed result) ∧ r = s.publishFirst b) ∨
    ∃ current m update next, s.position = .streaming current ∧ Update.ofMessage m = .ok update ∧
      current.apply update = .ok next ∧ ready = some (.item (some (.ok m))) ∧
      r = s.accept subscription next := by
  cases h with
  | rest => exact .inl .rest
  | stopped => exact .inl .stop
  | began => exact .inl .beginRound
  | woken => exact .inl .beginRound
  | connecting => exact .inr (.inl rfl)
  | connected position =>
      refine .inl (.moveTo (fun c hc => by cases hc) fun _ => ?_)
      rw [position]
      trivial
  | crashed => exact .inl (.moveTo (fun c hc => by cases hc) False.elim)
  | listed position =>
      refine .inl (.moveTo (fun c hc => by cases hc) fun _ => ?_)
      rw [position]
      trivial
  | bootstrapped position answered valid =>
      exact .inr (.inr (.inl ⟨_, _, _, _, position, answered, valid, rfl, rfl, rfl⟩))
  | subscribed position =>
      refine .inl ⟨?_, rfl, rfl, ?_, False.elim⟩
      · intro e he
        rw [List.mem_singleton.mp he]
        trivial
      · intro c hc
        rw [position]
        exact hc
  | accepted position valid applied =>
      exact .inr (.inr (.inr ⟨_, _, _, _, position, valid, applied, rfl, rfl⟩))
  | late => exact .inl ⟨List.forall_mem_nil _, rfl, rfl, fun _ h => h, fun h => h⟩
  | broken => exact .inl (.fail _ _)

end Supervisor
end HexWorld
