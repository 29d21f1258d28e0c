import HexWorld.Proofs.Sync.Notification

/-!
# `Proofs.Sync.Tally` — what the totals count

Each of the five totals goes up in one place of the machine, or in two, and has to agree with what
happens in the whole run: with the log, and with what became of the items of all subscriptions.
`Adds` says for one move how much is added on either side, so that an agreement that holds before a
move holds after it.

## Contents
- `Registry.outcomes`: how the calls of a notification end; `failed_notify`, that they are counted.
- `Fate`, `Supervisor.fates`: what becomes of the items that are taken.
- `Adds`, with `Adds.item`, `Adds.poll` and `Adds.move`: what one move adds.
- `Tally`: the totals after a run.
- `Rounded`: the rounds of a run and its sessions.
- `totals_account`.
-/

namespace HexWorld

/-! ## The calls of a notification -/

/-- The call does not end well. -/
def Outcome.isBad : Outcome → Bool
  | .handled => false
  | .failed | .panicked => true

theorem failed_foldl_count (outcomes : List Outcome) (report : Report) :
    (outcomes.foldl Report.count report).failed.toNat =
      min (report.failed.toNat + outcomes.countP Outcome.isBad) (UInt64.size - 1) := by
  induction outcomes generalizing report with
  | nil =>
      have below : report.failed.toNat < UInt64.size := report.failed.toNat_lt
      show report.failed.toNat = _
      rw [List.countP_nil]
      omega
  | cons outcome rest ih =>
      rw [List.foldl_cons, ih, List.countP_cons]
      cases outcome with
      | handled => rfl
      | failed | panicked =>
          show min ((Saturating.next64 report.failed).toNat + _) _ =
            min (_ + (_ + 1)) _
          rw [Saturating.toNat_next64]
          omega

namespace Registry

variable {β σ : Type}

/-- The same calls; how they end is noted down. -/
def recording (call : Entry β → σ → σ × Outcome) (e : Entry β) (state : σ × List Outcome) :
    (σ × List Outcome) × Outcome :=
  let (s, outcome) := call e state.1
  ((s, state.2 ++ [outcome]), outcome)

/-- How the calls of a notification end, in order. -/
def outcomes (call : Entry β → σ → σ × Outcome) (r : Registry β) (s : σ) : List Outcome :=
  (r.notify (recording call) (s, [])).1.2

/-- Noting changes nothing, and what is noted is counted. -/
theorem callAll_recording (call : Entry β → σ → σ × Outcome) (entries : List (Entry β)) (s : σ)
    (before : List Outcome) (report : Report) : ∃ more,
    callAll (recording call) entries (s, before) report =
      (((callAll call entries s report).1, before ++ more), (callAll call entries s report).2) ∧
    (callAll call entries s report).2 = more.foldl Report.count report := by
  induction entries generalizing s before report with
  | nil => exact ⟨[], by rw [List.append_nil]; rfl, rfl⟩
  | cons e rest ih =>
      obtain ⟨more, same, counted⟩ :=
        ih (call e s).1 (before ++ [(call e s).2]) (report.count (call e s).2)
      refine ⟨(call e s).2 :: more, ?_, counted⟩
      rw [List.append_cons]
      exact same

/-- **The report of a notification counts its bad calls.** -/
theorem failed_notify (call : Entry β → σ → σ × Outcome) (r : Registry β) (s : σ)
    (few : (r.outcomes call s).length < UInt64.size) :
    (r.notify call s).2.failed = .ofNat ((r.outcomes call s).countP Outcome.isBad) := by
  obtain ⟨more, same, counted⟩ := callAll_recording call r.entries s [] .none
  have noted : r.outcomes call s = more := by
    show (callAll (recording call) r.entries (s, []) .none).1.2 = more
    rw [same]
    rfl
  rw [noted] at few ⊢
  have some : more.countP Outcome.isBad ≤ more.length := List.countP_le_length
  have total := failed_foldl_count more .none
  rw [← counted] at total
  have none : Report.none.failed.toNat = 0 := rfl
  apply UInt64.toNat_inj.mp
  rw [UInt64.toNat_ofNat_of_lt' (by omega)]
  show (callAll call r.entries s .none).2.failed.toNat = _
  omega

end Registry

/-! ## What becomes of items -/

/-- What becomes of an item of the subscription. -/
inductive Fate where
  /-- It makes a snapshot, and the calls of the notification end like this. -/
  | accepted (outcomes : List Outcome)
  | late
  /-- It ends the session. -/
  | ended

namespace Fate

def isAccepted : Fate → Bool
  | accepted _ => true
  | _ => false

def isLate : Fate → Bool
  | late => true
  | _ => false

def isEnded : Fate → Bool
  | ended => true
  | _ => false

/-- How many are called. -/
def calls : Fate → Nat
  | accepted outcomes => outcomes.length
  | _ => 0

/-- How many of the calls do not end well. -/
def badCalls : Fate → Nat
  | accepted outcomes => outcomes.countP Outcome.isBad
  | _ => 0

/-- A number of each, over all. -/
def total (number : Fate → Nat) : List Fate → Nat
  | [] => 0
  | f :: rest => number f + total number rest

theorem total_append (number : Fate → Nat) (fates more : List Fate) :
    total number (fates ++ more) = total number fates + total number more := by
  induction fates with
  | nil => exact (Nat.zero_add _).symm
  | cons f rest ih => rw [List.cons_append, total, total, ih, Nat.add_assoc]

theorem total_badCalls_le (fates : List Fate) : total badCalls fates ≤ total calls fates := by
  induction fates with
  | nil => exact Nat.le_refl 0
  | cons f rest ih =>
      have one : f.badCalls ≤ f.calls := by
        cases f with
        | accepted outcomes => exact List.countP_le_length
        | late | ended => exact Nat.le_refl 0
      exact Nat.add_le_add one ih

/-- Every item has one of the three fates. -/
theorem length_eq (fates : List Fate) :
    fates.length = fates.countP isAccepted + fates.countP isLate + fates.countP isEnded := by
  induction fates with
  | nil => rfl
  | cons f rest ih =>
      rw [List.length_cons, List.countP_cons, List.countP_cons, List.countP_cons, ih]
      cases f with
      | accepted | late | ended =>
          simp only [isAccepted, isLate, isEnded, if_true, Bool.false_eq_true, if_false]
          omega

end Fate

/-- What becomes of an item in a session that goes on from this snapshot. A failure of the source,
an invalid message and one about an undeclared room end the session. -/
def Snapshot.fate (outcomes : Snapshot → List Outcome) (current : Snapshot) :
    Except SourceError EntitiesMessage → Fate
  | .error _ => .ended
  | .ok m =>
    match Update.ofMessage m with
    | .error _ => .ended
    | .ok update =>
      match current.apply update with
      | .ok next => .accepted (outcomes next)
      | .error (.stale ..) => .late
      | .error (.unknownRoom _) => .ended

/-- The effect is a notification. -/
def Effect.isPass : Effect → Bool
  | .notify _ _ => true
  | _ => false

/-- How many times in a row too many failures there have been: once, at the end, or not at all. -/
def Position.exhaustions : Position → Nat
  | .ended (.finished (.error (.retriesExhausted ..))) => 1
  | _ => 0

/-- How many sessions are under way. -/
def Position.underWay : Position → Nat
  | .connecting | .listing | .placing _ | .subscribing _ | .streaming _ => 1
  | _ => 0

namespace Supervisor

variable {β τ : Type}

/-- How the calls end when a snapshot is published. -/
def outcomes (subscription : Subscription β τ) (s : Supervisor β τ) (next : Snapshot) :
    List Outcome :=
  s.hub.registry.outcomes (subscription (some next) next) (s.hub.registry, s.hub.memory)

/-- What becomes of the item that a move takes from the subscription, if it takes one. -/
def fatesOf (subscription : Subscription β τ) (s : Supervisor β τ) : Move β τ → List Fate
  | .poll false (some (.item (some item))) =>
    match s.position with
    | .streaming current => [current.fate (s.outcomes subscription) item]
    | _ => []
  | _ => []

/-- What becomes of the items that a run takes from all subscriptions, in order. -/
def fates (settings : SyncSettings) (subscription : Subscription β τ) (moves : List (Move β τ))
    (s : Supervisor β τ) : List Fate :=
  trace settings subscription (fatesOf subscription) moves s

variable {settings : SyncSettings} {subscription : Subscription β τ} {s : Supervisor β τ}

variable (settings subscription) in
/-- **What the machine does with an item** is what becomes of it. -/
theorem poll_item {current : Snapshot} (position : s.position = .streaming current)
    (item : Except SourceError EntitiesMessage) :
    let fate := current.fate (s.outcomes subscription) item
    let r := s.poll settings subscription false (some (.item (some item)))
    (fate = .ended ∧ ∃ failure,
      Breaks settings.requestTimeout s.position (.item (some item)) failure ∧
        r = s.fail settings.policy failure) ∨
    (fate = .late ∧ r = (s.countStale, [])) ∨
    ∃ next, fate = .accepted (s.outcomes subscription next) ∧ next.isInitialized = true ∧
      r = s.accept subscription next := by
  intro fate r
  have ends {failure : SourceError} (ended : fate = .ended)
      (breaks : Breaks settings.requestTimeout (.streaming current) (.item (some item)) failure) :
      fate = .ended ∧ ∃ failure,
        Breaks settings.requestTimeout s.position (.item (some item)) failure ∧
          r = s.fail settings.policy failure := by
    rw [← position] at breaks
    exact ⟨ended, failure, breaks, poll_of_breaks breaks⟩
  cases item with
  | error e => exact .inl (ends rfl .faulty)
  | ok m =>
      cases valid : Update.ofMessage m with
      | error e => exact .inl (ends (by simp only [fate, Snapshot.fate, valid]) (.unreadable valid))
      | ok update =>
          cases applied : current.apply update with
          | error refusal =>
              cases refusal with
              | unknownRoom room =>
                  exact .inl (ends (by simp only [fate, Snapshot.fate, valid, applied])
                    (.undeclared valid applied))
              | stale worldTime latest =>
                  refine .inr (.inl ⟨by simp only [fate, Snapshot.fate, valid, applied], ?_⟩)
                  simp [r, poll, take, receive, position, valid, applied, countStale]
          | ok next =>
              have accepted : s.position.accepted? false (some (.item (some (.ok m)))) =
                  some next := by
                rw [position]
                exact Position.accepted?_item_eq_some_iff.mpr ⟨m, update, rfl, valid, applied⟩
              obtain ⟨taken, initialized⟩ := poll_of_accepted settings subscription accepted
              exact .inr (.inr ⟨next, by simp only [fate, Snapshot.fate, valid, applied],
                initialized, taken⟩)

variable (settings subscription) in
/-- The items that end their session are those after which no session goes on. -/
theorem fate_eq_ended_iff {current : Snapshot} (position : s.position = .streaming current)
    (item : Except SourceError EntitiesMessage) :
    current.fate (s.outcomes subscription) item = .ended ↔
      (s.poll settings subscription false (some (.item (some item)))).1.position.IsHalted := by
  rcases poll_item settings subscription position item with
    ⟨fate, failure, -, taken⟩ | ⟨fate, taken⟩ | ⟨next, fate, -, taken⟩
  · rw [fate, taken]
    exact iff_of_true rfl (isHalted_fail settings.policy failure s)
  · rw [fate, taken]
    refine iff_of_false Fate.noConfusion ?_
    show ¬s.position.IsHalted
    rw [position]
    exact id
  · rw [fate, taken]
    exact iff_of_false Fate.noConfusion id

/-! ## What one move adds -/

/-- What a move adds to the totals is what it adds to the log and to the fates of items. -/
structure Adds (s : Supervisor β τ) (r : Supervisor β τ × List Effect) (fates : List Fate) :
    Prop where
  sessions : r.1.hub.counters.sessionsStarted =
    s.hub.counters.sessionsStarted + .ofNat (begun r.2)
  published : r.1.hub.counters.snapshotsPublished =
    s.hub.counters.snapshotsPublished + .ofNat (updates r.2).length
  passes : r.2.countP Effect.isPass = (updates r.2).length
  accepted : fates.countP Fate.isAccepted = (updates r.2).length
  late : r.1.hub.counters.staleUpdates =
    s.hub.counters.staleUpdates + .ofNat (fates.countP Fate.isLate)
  callbacks : Fate.total Fate.calls fates < UInt64.size →
    r.1.hub.counters.callbackFailures =
      s.hub.counters.callbackFailures + .ofNat (Fate.total Fate.badCalls fates)
  /-- A failure that may go away by itself leads into a wait, or it was one too many. -/
  retries : ∃ more, r.1.hub.counters.retryableFailures =
      s.hub.counters.retryableFailures + .ofNat more ∧
    countPhases Phase.isBackoff r.2 + r.1.position.exhaustions = s.position.exhaustions + more
  /-- Only a session that has begun can fail. -/
  few : countPhases Phase.isBackoff r.2 + r.1.position.exhaustions + r.1.position.underWay ≤
    begun r.2 + s.position.exhaustions + s.position.underWay
  numbers : s.session ≤ r.1.session ∧ ∀ n, .streaming n ∈ phases r.2 → n ≤ r.1.session

namespace Adds

theorem none_added {x y : UInt64} (same : x = y) : x = y + .ofNat 0 := by
  rw [same]
  exact (UInt64.add_zero y).symm

/-- A reaction that changes no total, begins no session and publishes no update. -/
theorem of_same {r : Supervisor β τ × List Effect} (counters : r.1.hub.counters = s.hub.counters)
    (session : r.1.session = s.session) (unbegun : begun r.2 = 0) (unpublished : updates r.2 = [])
    (unpassed : r.2.countP Effect.isPass = 0) (unwaited : countPhases Phase.isBackoff r.2 = 0)
    (exhaustions : r.1.position.exhaustions = s.position.exhaustions)
    (underWay : r.1.position.underWay ≤ s.position.underWay)
    (numbers : ∀ n, .streaming n ∈ phases r.2 → n = s.session) : Adds s r [] where
  sessions := by
    rw [unbegun]
    exact none_added (congrArg Counters.sessionsStarted counters)
  published := by
    rw [unpublished]
    exact none_added (congrArg Counters.snapshotsPublished counters)
  passes := by rw [unpassed, unpublished]; rfl
  accepted := by rw [unpublished]; rfl
  late := none_added (congrArg Counters.staleUpdates counters)
  callbacks _ := none_added (congrArg Counters.callbackFailures counters)
  retries := by
    refine ⟨0, none_added (congrArg Counters.retryableFailures counters), ?_⟩
    rw [unwaited, exhaustions, Nat.zero_add, Nat.add_zero]
  few := by omega
  numbers := by
    rw [session]
    exact ⟨UInt64.le_refl _, fun n hn => by rw [numbers n hn]; exact UInt64.le_refl _⟩

theorem rest : Adds s (s, []) [] :=
  of_same rfl rfl rfl rfl rfl rfl rfl (Nat.le_refl _) (fun _ h => by cases h)

/-- Ending on request. -/
theorem stop : Adds s s.stop [] := by
  unfold Supervisor.stop
  cases position : s.position with
  | ended => exact rest
  | idle | beginning | connecting | listing | placing | subscribing | streaming | sleeping =>
      refine of_same rfl rfl rfl rfl rfl rfl ?_ (Nat.zero_le _) ?_
      · rw [position]
        rfl
      · intro n h
        simp [phases, beginRound, finish, Supervisor.enter, Effect.phase?] at h

/-- The session fails. -/
theorem fail {timeout : Duration} {e : Event} {failure : SourceError}
    (breaks : Breaks timeout s.position e failure) (policy : Backoff) :
    Adds s (s.fail policy failure) [] := by
  have going : s.position.exhaustions = 0 ∧ s.position.underWay = 1 := by
    generalize s.position = p at breaks
    cases breaks <;> exact ⟨rfl, rfl⟩
  rcases fail_cases policy failure s with ⟨-, h⟩ | ⟨-, -, h⟩ | ⟨-, -, h⟩ <;> rw [h]
  · refine of_same rfl rfl rfl rfl rfl rfl ?_ (Nat.zero_le _) fun n shown => ?_
    · rw [going.1]
      rfl
    · cases List.mem_singleton.mp shown
  all_goals
    -- There is one more wait, or one failure too many: in either case one more of their sum.
    refine ⟨none_added rfl, none_added rfl, rfl, rfl, none_added rfl, fun _ => none_added rfl,
      ⟨1, rfl, ?_⟩, ?_, UInt64.le_refl _, fun n shown => ?_⟩
    · rw [going.1]
      rfl
    · rw [going.1, going.2]
      exact Nat.le_refl 1
    · cases List.mem_singleton.mp shown

/-- A session begins. -/
theorem beginSession (position : s.position = .beginning) : Adds s s.beginSession [] where
  sessions := rfl
  published := none_added rfl
  passes := rfl
  accepted := rfl
  late := none_added rfl
  callbacks _ := none_added rfl
  retries := ⟨0, none_added rfl, by rw [position]; rfl⟩
  few := by
    rw [position]
    exact Nat.le_refl 1
  numbers := by
    refine ⟨?_, fun n h => by cases h⟩
    rw [UInt64.le_iff_toNat_le]
    show s.session.toNat ≤ (Saturating.next64 s.session).toNat
    have below : s.session.toNat < UInt64.size := s.session.toNat_lt
    rw [Saturating.toNat_next64]
    omega

/-- A late message is counted. -/
theorem countStale : Adds s (s.countStale, []) [.late] where
  sessions := none_added rfl
  published := none_added rfl
  passes := rfl
  accepted := rfl
  late := rfl
  callbacks _ := none_added rfl
  retries := ⟨0, none_added rfl, by show 0 + s.position.exhaustions = _; omega⟩
  few := by show 0 + s.position.exhaustions + s.position.underWay ≤ _; omega
  numbers := ⟨UInt64.le_refl _, fun n h => by cases h⟩

theorem updates_accept {next : Snapshot} (initialized : next.isInitialized = true) :
    updates (s.accept subscription next).2 = [next] :=
  List.filter_cons_of_pos initialized

/-- An update is accepted, and everyone is called. -/
theorem accept {current next : Snapshot} (position : s.position = .streaming current)
    (initialized : next.isInitialized = true) :
    Adds s (s.accept subscription next) [.accepted (s.outcomes subscription next)] where
  sessions := none_added rfl
  published := by
    rw [updates_accept initialized]
    rfl
  passes := by
    rw [updates_accept initialized]
    rfl
  accepted := by
    rw [updates_accept initialized]
    rfl
  late := none_added rfl
  callbacks few := by
    have counted := Registry.failed_notify (subscription (some next) next) s.hub.registry
      (s.hub.registry, s.hub.memory) few
    show s.hub.counters.callbackFailures + (s.hub.registry.notify (subscription (some next) next)
      (s.hub.registry, s.hub.memory)).2.failed = _
    rw [counted]
    rfl
  retries := by
    refine ⟨0, none_added rfl, ?_⟩
    rw [position]
    rfl
  few := by
    rw [position]
    exact Nat.le_refl 1
  numbers := ⟨UInt64.le_refl _, fun n h => by cases h⟩

/-- An item of the subscription is taken. -/
theorem item {current : Snapshot} (position : s.position = .streaming current)
    (item : Except SourceError EntitiesMessage) :
    Adds s (s.poll settings subscription false (some (.item (some item))))
      [current.fate (s.outcomes subscription) item] := by
  rcases poll_item settings subscription position item with
    ⟨fate, failure, breaks, taken⟩ | ⟨fate, taken⟩ | ⟨next, fate, initialized, taken⟩
  · rw [fate, taken]
    have added := fail breaks settings.policy
    exact { added with }
  · rw [fate, taken]
    exact countStale
  · rw [fate, taken]
    exact accept position initialized

/-- Any other poll. -/
theorem poll {stopping : Bool} {ready : Option Event} {r : Supervisor β τ × List Effect}
    (other : ∀ current item, s.position = .streaming current → stopping = false →
      ready ≠ some (.item (some item)))
    (step : Step settings subscription s stopping ready r) : Adds s r [] := by
  cases step with
  | rest => exact rest
  | stopped => exact stop
  | connecting position => exact beginSession position
  | accepted position => exact absurd rfl (other _ _ position rfl)
  | late position => exact absurd rfl (other _ _ position rfl)
  | broken breaks => exact fail breaks settings.policy
  | began position | woken position =>
      refine of_same rfl rfl rfl rfl rfl rfl (by rw [position]; rfl) (Nat.zero_le _) fun n h => ?_
      cases List.mem_singleton.mp h
  | crashed position =>
      exact of_same rfl rfl rfl rfl rfl rfl (by rw [position]; rfl) (Nat.zero_le _)
        fun n h => by cases h
  | connected position | listed position | bootstrapped position =>
      exact of_same rfl rfl rfl rfl rfl rfl (by rw [position]; rfl)
        (by rw [position]; exact Nat.le_refl 1) fun n h => by cases h
  | subscribed position =>
      refine of_same rfl rfl rfl rfl rfl rfl (by rw [position]; rfl)
        (by rw [position]; exact Nat.le_refl 1) fun n h => ?_
      cases List.mem_singleton.mp h
      rfl

/-- **What one move adds.** -/
theorem move (settings : SyncSettings) (subscription : Subscription β τ) (s : Supervisor β τ)
    (m : Move β τ) : Adds s (s.move settings subscription m) (s.fatesOf subscription m) := by
  unfold fatesOf
  split
  next taken =>
    split
    next current position => exact item position taken
    next other =>
      refine poll ?_ (step_poll false (some (.item (some taken))))
      exact fun current _ position => absurd position (other current)
  next other =>
    cases m with
    | register | deregister | remember => exact { rest (s := s) with }
    | poll stopping ready =>
        refine poll (fun current item _ running ready => ?_) (step_poll stopping ready)
        subst running ready
        exact other item rfl

end Adds

/-! ## The totals after a run -/

/-- The totals agree with the log and with the fates of the items. -/
structure Tally (s : Supervisor β τ) (log : List Effect) (fates : List Fate) : Prop where
  sessions : s.hub.counters.sessionsStarted = .ofNat (begun log)
  published : s.hub.counters.snapshotsPublished = .ofNat (updates log).length
  passes : log.countP Effect.isPass = (updates log).length
  accepted : fates.countP Fate.isAccepted = (updates log).length
  late : s.hub.counters.staleUpdates = .ofNat (fates.countP Fate.isLate)
  callbacks : Fate.total Fate.calls fates < UInt64.size →
    s.hub.counters.callbackFailures = .ofNat (Fate.total Fate.badCalls fates)
  retries : s.hub.counters.retryableFailures =
    .ofNat (countPhases Phase.isBackoff log + s.position.exhaustions)
  few : countPhases Phase.isBackoff log + s.position.exhaustions + s.position.underWay ≤ begun log
  numbers : ∀ n, .streaming n ∈ phases log → n ≤ s.session

namespace Tally

variable {log : List Effect} {fates : List Fate}

theorem start (words : List UInt64) (memory : τ) :
    Tally (Supervisor.start words memory : Supervisor β τ) [] [] where
  sessions := rfl
  published := rfl
  passes := rfl
  accepted := rfl
  late := rfl
  callbacks _ := rfl
  retries := rfl
  few := Nat.le_refl 0
  numbers _ h := by cases h

/-- What is added on either side keeps the agreement. -/
theorem step {r : Supervisor β τ × List Effect} {new : List Fate} (h : Tally s log fates)
    (added : Adds s r new) : Tally r.1 (log ++ r.2) (fates ++ new) where
  sessions := by rw [added.sessions, h.sessions, begun_append, UInt64.ofNat_add]
  published := by
    rw [added.published, h.published, updates_append, List.length_append, UInt64.ofNat_add]
  passes := by
    rw [List.countP_append, h.passes, added.passes, updates_append, List.length_append]
  accepted := by
    rw [List.countP_append, h.accepted, added.accepted, updates_append, List.length_append]
  late := by rw [added.late, h.late, List.countP_append, UInt64.ofNat_add]
  callbacks fits := by
    rw [Fate.total_append] at fits
    rw [added.callbacks (by omega), h.callbacks (by omega), Fate.total_append, UInt64.ofNat_add]
  retries := by
    obtain ⟨more, counted, same⟩ := added.retries
    have total : countPhases Phase.isBackoff log + countPhases Phase.isBackoff r.2 +
        r.1.position.exhaustions =
        countPhases Phase.isBackoff log + s.position.exhaustions + more := by omega
    rw [counted, h.retries, countPhases_append, total, ← UInt64.ofNat_add]
  few := by
    have before := h.few
    have during := added.few
    rw [countPhases_append, begun_append]
    omega
  numbers n shown := by
    rw [phases, List.filterMap_append] at shown
    rcases List.mem_append.mp shown with old | new
    · exact UInt64.le_trans (h.numbers n old) added.numbers.1
    · exact added.numbers.2 n new

end Tally

theorem tally_run (settings : SyncSettings) (subscription : Subscription β τ)
    (words : List UInt64) (memory : τ) (moves : List (Move β τ)) :
    Tally (run settings subscription moves (start words memory)).1
      (run settings subscription moves (start words memory)).2
      (fates settings subscription moves (start words memory)) :=
  trace_induction (.start words memory)
    fun s _ _ m _ h => h.step (.move settings subscription s m)

/-! ## Rounds and sessions -/

/-- Every round that has been shown has begun its session, except the last one in two cases: the
session is about to begin, or the machine has ended on request before it began. -/
inductive Rounded (s : Supervisor β τ) (log : List Effect) : Prop where
  | even (equal : countPhases Phase.isBootstrapping log = begun log)
      (position : s.position ≠ .beginning)
  | ahead {front attempt} (position : s.position = .beginning)
      (last : log = front ++ [.phase (.bootstrapping attempt)])
      (more : countPhases Phase.isBootstrapping log = begun log + 1)
  | stopped {front attempt} (position : s.position = .ended (.finished (.ok ())))
      (last : log = front ++ [.phase (.bootstrapping attempt), .phase .stopped])
      (more : countPhases Phase.isBootstrapping log = begun log + 1)

namespace Rounded

variable {log : List Effect}

/-- A reaction that shows no round and begins no session. -/
theorem keeps {r : Supervisor β τ × List Effect} (h : Rounded s log)
    (position : s.position ≠ .beginning) (running : s.position.ending? = none)
    (unshown : countPhases Phase.isBootstrapping r.2 = 0) (unbegun : begun r.2 = 0)
    (next : r.1.position ≠ .beginning) : Rounded r.1 (log ++ r.2) := by
  cases h with
  | even equal =>
      refine .even ?_ next
      rw [countPhases_append, begun_append, unshown, unbegun, equal]
  | ahead other => exact absurd other position
  | stopped ended =>
      rw [ended] at running
      cases running

/-- A new round is shown. -/
theorem beginRound (h : Rounded s log) (position : s.position ≠ .beginning)
    (running : s.position.ending? = none) : Rounded s.beginRound.1 (log ++ s.beginRound.2) := by
  cases h with
  | even equal =>
      refine .ahead rfl rfl ?_
      rw [countPhases_append, begun_append, equal]
      rfl
  | ahead other => exact absurd other position
  | stopped ended =>
      rw [ended] at running
      cases running

/-- The machine ends on request. -/
theorem stop (h : Rounded s log) : Rounded s.stop.1 (log ++ s.stop.2) := by
  have finished {s : Supervisor β τ} {log : List Effect} (h : Rounded s log)
      (running : s.position.ending? = none) :
      Rounded (s.finish (.ok ())).1 (log ++ (s.finish (.ok ())).2) := by
    cases h with
    | even equal =>
        refine .even ?_ (by exact Position.noConfusion)
        rw [countPhases_append, begun_append, equal]
        rfl
    | @ahead front attempt _ last more =>
        have ended : log ++ (s.finish (.ok ())).2 =
            front ++ [.phase (.bootstrapping attempt), .phase .stopped] := by
          rw [last, List.append_assoc]
          rfl
        refine .stopped rfl ended ?_
        rw [countPhases_append, begun_append, more]
        rfl
    | stopped ended =>
        rw [ended] at running
        cases running
  unfold Supervisor.stop
  cases position : s.position with
  | ended =>
      show Rounded s (log ++ [])
      rw [List.append_nil]
      exact h
  | idle =>
      have first := h.beginRound (by rw [position]; exact Position.noConfusion)
        (by rw [position]; rfl)
      show Rounded (s.beginRound.1.finish (.ok ())).1 (log ++ (s.beginRound.2 ++ _))
      rw [← List.append_assoc]
      exact finished first rfl
  | beginning | connecting | listing | placing | subscribing | streaming | sleeping =>
      exact finished h (by rw [position]; rfl)

theorem beginSession (h : Rounded s log) (position : s.position = .beginning) :
    Rounded s.beginSession.1 (log ++ s.beginSession.2) := by
  cases h with
  | even _ other => exact absurd position other
  | ahead _ _ more =>
      refine .even ?_ (by exact Position.noConfusion)
      rw [countPhases_append, begun_append, more]
      rfl
  | stopped ended => cases position.symm.trans ended

theorem fail (h : Rounded s log) {timeout : Duration} {e : Event} {failure : SourceError}
    (breaks : Breaks timeout s.position e failure) (policy : Backoff) :
    Rounded (s.fail policy failure).1 (log ++ (s.fail policy failure).2) := by
  obtain ⟨position, running⟩ : s.position ≠ .beginning ∧ s.position.ending? = none := by
    generalize s.position = p at breaks
    cases breaks <;> exact ⟨Position.noConfusion, rfl⟩
  rcases fail_cases policy failure s with ⟨-, eq⟩ | ⟨-, -, eq⟩ | ⟨-, -, eq⟩ <;> rw [eq] <;>
    exact h.keeps position running rfl rfl (by exact Position.noConfusion)

theorem poll (h : Rounded s log) {stopping : Bool} {ready : Option Event}
    {r : Supervisor β τ × List Effect} (step : Step settings subscription s stopping ready r) :
    Rounded r.1 (log ++ r.2) := by
  have at_position {p : Position} (position : s.position = p) (other : p ≠ .beginning)
      (running : p.ending? = none) : s.position ≠ .beginning ∧ s.position.ending? = none := by
    rw [position]
    exact ⟨other, running⟩
  cases step with
  | rest =>
      show Rounded s (log ++ [])
      rw [List.append_nil]
      exact h
  | stopped => exact h.stop
  | connecting position => exact h.beginSession position
  | broken breaks => exact h.fail breaks settings.policy
  | began position | woken position =>
      obtain ⟨other, running⟩ := at_position position Position.noConfusion rfl
      exact h.beginRound other running
  | connected position | crashed position | listed position | bootstrapped position
  | subscribed position | accepted position =>
      obtain ⟨other, running⟩ := at_position position Position.noConfusion rfl
      exact h.keeps other running rfl rfl (by exact Position.noConfusion)
  | late position =>
      obtain ⟨other, running⟩ := at_position position Position.noConfusion rfl
      exact h.keeps other running rfl rfl other

end Rounded

theorem rounded_run (settings : SyncSettings) (subscription : Subscription β τ)
    (words : List UInt64) (memory : τ) (moves : List (Move β τ)) :
    Rounded (run settings subscription moves (start words memory)).1
      (run settings subscription moves (start words memory)).2 := by
  refine run_induction (.even rfl Position.noConfusion) (fun s log m h => ?_) moves
  cases m with
  | poll stopping ready => exact h.poll (step_poll stopping ready)
  | register | deregister | remember =>
      show Rounded _ (log ++ [])
      rw [List.append_nil]
      cases h with
      | even equal position => exact .even equal position
      | ahead position last more => exact .ahead position last more
      | stopped position last more => exact .stopped position last more

/-! ## The account -/

/-- **The totals are what they are the totals of**, at every point of a run with fewer than `2 ^ 64`
sessions, items and calls.

- As many sessions have begun as connections have been opened, and the last of them has this number,
  which no other exceeds. Every round that has been shown has begun its session, unless it is just
  about to, or the machine has ended on request before.
- As many snapshots have been published as updates have been stored, and as there have been
  notifications.
- Every item that was taken has been published, or was late, or has ended its session.
- The failed calls are those that failed or panicked, over all notifications.
- The failures that may go away by themselves are the waits, and the last one if it was one too
  many. -/
theorem totals_account (settings : SyncSettings) (subscription : Subscription β τ)
    (words : List UInt64) (memory : τ) (moves : List (Move β τ))
    (few_sessions : begun (run settings subscription moves (start words memory)).2 < UInt64.size)
    (few_items : (fates settings subscription moves (start words memory)).length < UInt64.size)
    (few_calls : Fate.total Fate.calls (fates settings subscription moves (start words memory)) <
      UInt64.size) :
    let r := run settings subscription moves (start words memory)
    let fates := fates settings subscription moves (start words memory)
    let totals := r.1.hub.counters
    (totals.sessionsStarted.toNat = begun r.2 ∧ r.1.session.toNat = begun r.2 ∧
      (∀ a ∈ stored r.2, a.session ≤ r.1.session) ∧
      (∀ n, .streaming n ∈ phases r.2 → n ≤ r.1.session)) ∧
    (countPhases Phase.isBootstrapping r.2 = begun r.2 ∨
      countPhases Phase.isBootstrapping r.2 = begun r.2 + 1 ∧
        (r.1.position = .beginning ∨
          r.1.position = .ended (.finished (.ok ())) ∧ ∃ front attempt,
            r.2 = front ++ [.phase (.bootstrapping attempt), .phase .stopped])) ∧
    (totals.snapshotsPublished.toNat = (updates r.2).length ∧
      totals.snapshotsPublished.toNat = r.2.countP Effect.isPass ∧
      totals.snapshotsPublished.toNat = fates.countP Fate.isAccepted) ∧
    (totals.staleUpdates.toNat = fates.countP Fate.isLate ∧
      fates.length = totals.snapshotsPublished.toNat + totals.staleUpdates.toNat +
        fates.countP Fate.isEnded ∧
      ∀ (s : Supervisor β τ) current item, s.position = .streaming current →
        (current.fate (s.outcomes subscription) item = .ended ↔
          (s.poll settings subscription false (some (.item (some item)))).1.position.IsHalted)) ∧
    totals.callbackFailures.toNat = Fate.total Fate.badCalls fates ∧
    totals.retryableFailures.toNat =
      countPhases Phase.isBackoff r.2 + r.1.position.exhaustions := by
  intro r fates totals
  have few_sessions : begun r.2 < UInt64.size := few_sessions
  have h : Tally r.1 r.2 fates := tally_run settings subscription words memory moves
  have chronicle : Chronicle r.1 r.2 :=
    chronicle_run settings subscription words memory moves few_sessions
  have parts : fates.length = _ := Fate.length_eq fates
  have few_items : fates.length < UInt64.size := few_items
  have published : totals.snapshotsPublished.toNat = (updates r.2).length := by
    show r.1.hub.counters.snapshotsPublished.toNat = _
    rw [h.published]
    exact UInt64.toNat_ofNat_of_lt' (by rw [← h.accepted]; omega)
  have late : totals.staleUpdates.toNat = fates.countP Fate.isLate := by
    show r.1.hub.counters.staleUpdates.toNat = _
    rw [h.late]
    exact UInt64.toNat_ofNat_of_lt' (by omega)
  refine ⟨⟨?_, chronicle.session, fun a ha => ?_, h.numbers⟩, ?_, ⟨published, ?_, ?_⟩,
    ⟨late, ?_, fun s current item => ?_⟩, ?_, ?_⟩
  · show r.1.hub.counters.sessionsStarted.toNat = _
    rw [h.sessions]
    exact UInt64.toNat_ofNat_of_lt' few_sessions
  · rw [← map_storedSince 0 r.2] at ha
    obtain ⟨p, hp, rfl⟩ := List.mem_map.mp ha
    have old : p.1 ≤ 0 + begun r.2 := le_of_mem_storedSince hp
    rw [UInt64.le_iff_toNat_le, chronicle.numbered p hp, chronicle.session]
    omega
  · cases rounded_run settings subscription words memory moves with
    | even equal => exact .inl equal
    | ahead position _ more => exact .inr ⟨more, .inl position⟩
    | stopped position last more => exact .inr ⟨more, .inr ⟨position, _, _, last⟩⟩
  · rw [published, h.passes]
  · rw [published, h.accepted]
  · rw [published, late, ← h.accepted]
    exact parts
  · exact fun position => fate_eq_ended_iff settings subscription position item
  · show r.1.hub.counters.callbackFailures.toNat = _
    rw [h.callbacks few_calls]
    exact UInt64.toNat_ofNat_of_lt' (Nat.lt_of_le_of_lt (Fate.total_badCalls_le fates) few_calls)
  · show r.1.hub.counters.retryableFailures.toNat = _
    rw [h.retries]
    exact UInt64.toNat_ofNat_of_lt' (by have few := h.few; omega)

/-- Three ticks with subscribers that fail, a late tick, a failure in the place of a tick, and a
stop before the next session begins. -/
def fiveItems : List (Move Nat Unit) :=
  threeTicks ++ [.hear (tick 6 ⟨0, 0⟩ []),
    .poll false (some (.item (some (.error (.unavailable "down"))))), .poll false (some .woken),
    .poll true none]

theorem totals_account_fiveItems :
    let r := run plainSettings successors.subscription fiveItems (start [] ())
    let fates := fates plainSettings successors.subscription fiveItems (start [] ())
    begun r.2 < UInt64.size ∧ fates.length < UInt64.size ∧
    Fate.total Fate.calls fates < UInt64.size ∧
    r.1.hub.counters = ⟨1, 3, 1, 4, 1⟩ ∧
    countPhases Phase.isBootstrapping r.2 = 2 ∧ fates.length = 5 ∧ fates.countP Fate.isEnded = 1 ∧
    r.1.hub.counters.callbackFailures.toNat = Fate.total Fate.badCalls fates ∧
    r.1.hub.counters.snapshotsPublished.toNat = (updates r.2).length := by
  intro r fates
  have few_sessions : begun r.2 < UInt64.size := by decide +kernel
  have few_items : fates.length < UInt64.size := by decide +kernel
  have few_calls : Fate.total Fate.calls fates < UInt64.size := by decide +kernel
  obtain ⟨-, -, ⟨published, -⟩, -, callbacks, -⟩ := totals_account plainSettings
    successors.subscription [] () fiveItems few_sessions few_items few_calls
  exact ⟨few_sessions, few_items, few_calls, by decide +kernel, by decide +kernel,
    by decide +kernel, by decide +kernel, callbacks, published⟩

end Supervisor
end HexWorld
