import HexWorld.Proofs.Sync.Course

/-!
# `Proofs.Sync.Stop` — what is left of a run once its end has been asked for

The owner asks for the end by a signal, or gives up the machine, which is a signal too. The machine
is not told: it looks at the signal before a session begins, before it waits for the next one, and
whenever it is polled afresh. While it goes on in one poll it does not look, so a session can still
fail after the signal was given. Nothing more is left to it: at the next look the machine ends,
whatever has come in the meantime.

## Contents
- `Signal`, `Incident`, `Owned`: a machine and its owner, and what happens to them.
- `Ended`, kept by all that happens afterwards.
- `ended_of_seen`: the look that sees the signal.
- `Resigned`: no session begins any more, and at most one wait.
- `ends_on_request`.
-/

namespace HexWorld

/-! ## The machine and its owner -/

/-- What the owner of a machine shares with it: whether the end has been requested, and whether
there is an owner at all. -/
structure Signal where
  requested : Bool
  held : Bool

/-- The machine is to end. -/
def Signal.isGiven (signal : Signal) : Bool :=
  signal.requested || !signal.held

/-- The machine looks at the signal before it does anything else at this position, even within a
poll that has begun. -/
def Position.looks : Position → Bool
  | .idle | .beginning | .sleeping => true
  | _ => false

/-- What happens to a machine that has an owner. -/
inductive Incident (β τ : Type) where
  /-- The owner asks for the end. -/
  | request
  /-- The owner is no more. -/
  | abandon
  /-- The machine is polled: afresh, or as the rest of a poll that has begun. -/
  | poll (afresh : Bool) (ready : Option Event)
  | register (subscriber : β)
  | deregister (id : UInt64)
  | remember (change : τ → τ)

/-- The incident gives the signal. -/
def Incident.asks {β τ : Type} : Incident β τ → Bool
  | .request | .abandon => true
  | _ => false

def Incident.isPoll {β τ : Type} : Incident β τ → Bool
  | .poll _ _ => true
  | _ => false

/-- A machine, and what its owner shares with it. -/
structure Owned (β τ : Type) where
  signal : Signal
  machine : Supervisor β τ

namespace Owned

open Supervisor

variable {β τ : Type}

def start (words : List UInt64) (memory : τ) : Owned β τ :=
  ⟨⟨false, true⟩, .start words memory⟩

/-- One move of the machine. -/
def moved (settings : SyncSettings) (subscription : Subscription β τ) (m : Move β τ)
    (o : Owned β τ) : Owned β τ × List Effect :=
  let (machine, effects) := o.machine.move settings subscription m
  ({ o with machine }, effects)

/-- The machine sees the signal in this poll. -/
def sees (afresh : Bool) (o : Owned β τ) : Bool :=
  o.signal.isGiven && (afresh || o.machine.position.looks)

def happen (settings : SyncSettings) (subscription : Subscription β τ) (o : Owned β τ) :
    Incident β τ → Owned β τ × List Effect
  | .request => ({ o with signal := { o.signal with requested := true } }, [])
  | .abandon => ({ o with signal := { o.signal with held := false } }, [])
  | .poll afresh ready => o.moved settings subscription (.poll (o.sees afresh) ready)
  | .register subscriber => o.moved settings subscription (.register subscriber)
  | .deregister id => o.moved settings subscription (.deregister id)
  | .remember change => o.moved settings subscription (.remember change)

/-- Where incidents lead, and what the machine does. -/
def run (settings : SyncSettings) (subscription : Subscription β τ) :
    List (Incident β τ) → Owned β τ → Owned β τ × List Effect
  | [], o => (o, [])
  | i :: rest, o =>
    let (o, effects) := o.happen settings subscription i
    let (o, log) := run settings subscription rest o
    (o, effects ++ log)

variable {settings : SyncSettings} {subscription : Subscription β τ} {o : Owned β τ}

theorem run_cons (i : Incident β τ) (rest : List (Incident β τ)) (o : Owned β τ) :
    run settings subscription (i :: rest) o =
      ((run settings subscription rest (o.happen settings subscription i).1).1,
        (o.happen settings subscription i).2 ++
          (run settings subscription rest (o.happen settings subscription i).1).2) := rfl

/-- What holds without a log, and is kept by every incident, holds in the end. -/
theorem run_induction {P : Owned β τ → List Effect → Prop} {o : Owned β τ} (start : P o [])
    (step : ∀ o log i, P o log →
      P (o.happen settings subscription i).1 (log ++ (o.happen settings subscription i).2))
    (incidents : List (Incident β τ)) :
    P (run settings subscription incidents o).1 (run settings subscription incidents o).2 := by
  suffices h : ∀ (o : Owned β τ) (log : List Effect), P o log →
      P (run settings subscription incidents o).1
        (log ++ (run settings subscription incidents o).2) by
    simpa using h o [] start
  intro o log ho
  induction incidents generalizing o log with
  | nil =>
      show P o (log ++ [])
      rw [List.append_nil]
      exact ho
  | cons i rest ih =>
      rw [run_cons, ← List.append_assoc]
      exact ih _ _ (step o log i ho)

/-! ## The signal -/

variable (settings subscription) in
/-- A signal that has been given is not taken back. -/
theorem isGiven_happen (h : o.signal.isGiven = true) (i : Incident β τ) :
    (o.happen settings subscription i).1.signal.isGiven = true := by
  cases i with
  | request => rfl
  | abandon => exact Bool.or_true _
  | poll | register | deregister | remember => exact h

theorem isGiven_of_asks {i : Incident β τ} (h : i.asks = true) :
    (o.happen settings subscription i).1.signal.isGiven = true := by
  cases i with
  | request => rfl
  | abandon => exact Bool.or_true _
  | poll | register | deregister | remember => cases h

theorem isGiven_run {incidents : List (Incident β τ)} (asked : ∃ i ∈ incidents, i.asks = true)
    (o : Owned β τ) : (run settings subscription incidents o).1.signal.isGiven = true := by
  obtain ⟨i, mem, asks⟩ := asked
  induction incidents generalizing o with
  | nil => cases mem
  | cons first rest ih =>
      rw [run_cons]
      rcases List.mem_cons.mp mem with rfl | mem
      · exact run_induction (P := fun o _ => o.signal.isGiven = true) (isGiven_of_asks asks)
          (fun o _ i h => isGiven_happen settings subscription h i) rest
      · exact ih _ mem

/-! ## After the end -/

/-- The machine has ended, with these things left in the hub. -/
structure Ended (ending : Ending) (current : Option Snapshot) (counters : Counters)
    (o : Owned β τ) : Prop where
  position : o.machine.position = .ended ending
  phase : o.machine.hub.phase = .stopped
  current : o.machine.hub.current = current
  counters : o.machine.hub.counters = counters

namespace Ended

variable {ending : Ending} {current : Option Snapshot} {counters : Counters}

variable (settings subscription) in
theorem happen (h : Ended ending current counters o) (i : Incident β τ) :
    Ended ending current counters (o.happen settings subscription i).1 ∧
      (o.happen settings subscription i).2 = [] := by
  cases i with
  | request | abandon | register | deregister | remember =>
      exact ⟨⟨h.position, h.phase, h.current, h.counters⟩, rfl⟩
  | poll afresh ready =>
      have nothing : o.machine.poll settings subscription (o.sees afresh) ready = (o.machine, []) :=
        poll_of_ended h.position _ ready
      show Ended _ _ _ { o with machine := (o.machine.poll _ _ _ _).1 } ∧
        (o.machine.poll _ _ _ _).2 = []
      rw [nothing]
      exact ⟨h, rfl⟩

variable (settings subscription) in
/-- **Nothing is left to a machine that has ended**, and nobody changes what it has left. -/
theorem run (h : Ended ending current counters o) (later : List (Incident β τ)) :
    Ended ending current counters (run settings subscription later o).1 ∧
      (Owned.run settings subscription later o).2 = [] := by
  refine run_induction (P := fun o log => Ended ending current counters o ∧ log = []) ⟨h, rfl⟩ ?_
    later
  rintro o log i ⟨ended, rfl⟩
  exact ended.happen settings subscription i

end Ended

/-! ## The look that sees the signal -/

/-- What a machine shows when it ends on request. -/
def farewell (s : Supervisor β τ) : List Effect :=
  match s.position with
  | .idle => [.phase (.bootstrapping s.failures), .phase .stopped]
  | _ => [.phase .stopped]

theorem stop_of_running {s : Supervisor β τ} (running : s.position.ending? = none) :
    s.stop =
      ({ s with position := .ended (.finished (.ok ())), hub := { s.hub with phase := .stopped } },
        farewell s) := by
  unfold stop farewell
  cases position : s.position with
  | ended =>
      rw [position] at running
      cases running
  | idle | beginning | connecting | listing | placing | subscribing | streaming | sleeping => rfl

variable (settings subscription) in
/-- **The machine ends when it sees the signal**, whatever has come at the same moment. -/
theorem ended_of_seen {afresh : Bool} (seen : o.sees afresh = true)
    (running : o.machine.position.ending? = none) (ready : Option Event)
    (later : List (Incident β τ)) :
    let r := run settings subscription (.poll afresh ready :: later) o
    Ended (.finished (.ok ())) o.machine.hub.current o.machine.hub.counters r.1 ∧
      r.2 = farewell o.machine := by
  have stops : o.happen settings subscription (.poll afresh ready) =
      ({ o with machine := o.machine.stop.1 }, o.machine.stop.2) := by
    show o.moved settings subscription (.poll (o.sees afresh) ready) = _
    rw [seen]
    rfl
  have first : Ended (.finished (.ok ())) o.machine.hub.current o.machine.hub.counters
      { o with machine := o.machine.stop.1 } := by
    rw [stop_of_running running]
    exact ⟨rfl, rfl, rfl, rfl⟩
  obtain ⟨rest, silent⟩ := first.run settings subscription later
  rw [run_cons, stops]
  refine ⟨rest, ?_⟩
  show o.machine.stop.2 ++ _ = _
  rw [silent, List.append_nil, stop_of_running running]

variable (settings subscription) in
/-- In a wait for the next session, the next poll is the last. -/
theorem ended_of_sleeping (given : o.signal.isGiven = true)
    (position : o.machine.position = .sleeping) {later : List (Incident β τ)}
    (polled : ∃ i ∈ later, i.isPoll = true) :
    let r := run settings subscription later o
    Ended (.finished (.ok ())) o.machine.hub.current o.machine.hub.counters r.1 ∧
      r.2 = [.phase .stopped] := by
  obtain ⟨i, mem, poll⟩ := polled
  induction later generalizing o with
  | nil => cases mem
  | cons first rest ih =>
      have given_next := isGiven_happen settings subscription given first
      cases first with
      | poll afresh ready =>
          have seen : o.sees afresh = true := by
            rw [sees, given, position]
            exact Bool.or_true afresh
          have running : o.machine.position.ending? = none := by
            rw [position]
            rfl
          have ended := ended_of_seen settings subscription seen running ready rest
          unfold farewell at ended
          rw [position] at ended
          exact ended
      | request | abandon | register | deregister | remember =>
          -- The machine still waits, and the poll is among the rest.
          have mem : i ∈ rest := (List.mem_cons.mp mem).resolve_left (by rintro rfl; cases poll)
          exact ih given_next position mem

/-! ## A failure that comes before the look -/

theorem looks_of_breaks {timeout : Duration} {p : Position} {e : Event} {failure : SourceError}
    (breaks : Breaks timeout p e failure) : p.looks = false := by
  cases breaks <;> rfl

/-- The rest of a poll in which the session fails. -/
theorem happen_of_breaks {e : Event} {failure : SourceError}
    (breaks : Breaks settings.requestTimeout o.machine.position e failure) :
    o.happen settings subscription (.poll false (some e)) =
      ({ o with machine := (o.machine.fail settings.policy failure).1 },
        (o.machine.fail settings.policy failure).2) := by
  have unseen : o.sees false = false := by
    rw [sees, looks_of_breaks breaks]
    exact Bool.and_false _
  show o.moved settings subscription (.poll (o.sees false) (some e)) = _
  rw [unseen]
  unfold moved
  show ({ o with machine := (o.machine.poll settings subscription false (some e)).1 }, _) = _
  exact congrArg (fun r => ((⟨o.signal, r.1⟩ : Owned β τ), r.2)) (poll_of_breaks breaks)

/-- The totals after one more failure that may go away by itself. -/
def counted (c : Counters) : Counters :=
  { c with retryableFailures := c.retryableFailures + 1 }

/-- **A failure that the session has before the machine looks** is answered as ever: a fatal one is
the end, and any other begins a wait, in which the signal is seen. -/
theorem ended_of_breaks (given : o.signal.isGiven = true) {e : Event} {failure : SourceError}
    (breaks : Breaks settings.requestTimeout o.machine.position e failure)
    (later : List (Incident β τ)) :
    let s := o.machine
    let count := Saturating.next32 s.failures
    let delay := (settings.policy.delay (count - 1) s.words).1
    let r := run settings subscription (.poll false (some e) :: later) o
    (failure.isRetryable = false →
      Ended (.finished (.error (.nonRetryable failure))) s.hub.current s.hub.counters r.1 ∧
        r.2 = [.phase .stopped]) ∧
    (failure.isRetryable = true → settings.policy.allowsRetry count = false →
      Ended (.finished (.error (.retriesExhausted count failure))) s.hub.current
        (counted s.hub.counters) r.1 ∧ r.2 = [.phase .stopped]) ∧
    (failure.isRetryable = true → settings.policy.allowsRetry count = true →
      (∃ i ∈ later, i.isPoll = true) →
      Ended (.finished (.ok ())) s.hub.current (counted s.hub.counters) r.1 ∧
        r.2 = [.phase (.backoff count delay), .sleep delay, .phase .stopped]) := by
  intro s count delay
  have finished {cause : FatalError} {s' : Supervisor β τ}
      (fails : s.fail settings.policy failure = s'.finish (.error cause)) :
      let r := run settings subscription (.poll false (some e) :: later) o
      Ended (.finished (.error cause)) s'.hub.current s'.hub.counters r.1 ∧
        r.2 = [.phase .stopped] := by
    have ended : Ended (.finished (.error cause)) s'.hub.current s'.hub.counters
        { o with machine := (s'.finish (.error cause)).1 } := ⟨rfl, rfl, rfl, rfl⟩
    obtain ⟨rest, silent⟩ := ended.run settings subscription later
    rw [run_cons, happen_of_breaks breaks, fails]
    refine ⟨rest, ?_⟩
    rw [silent]
    rfl
  refine ⟨fun final => finished (fail_of_final final), fun retryable forbidden =>
    finished (fail_of_forbidden retryable forbidden), fun retryable allowed polled => ?_⟩
  let waiting : Owned β τ := ⟨o.signal, (s.countFailure.backOff settings.policy).1⟩
  have position : waiting.machine.position = .sleeping := rfl
  obtain ⟨ended, log⟩ :=
    ended_of_sleeping (o := waiting) settings subscription given position polled
  rw [run_cons, happen_of_breaks breaks, fail_of_allowed retryable allowed]
  refine ⟨ended, ?_⟩
  rw [log]
  rfl

/-! ## No further session -/

/-- What a machine can have done since the signal was given, when `failures` had failed before it:
it has begun no session, and if one has failed, the machine waits or has ended. -/
structure Resigned (failures : UInt64) (o : Owned β τ) (log : List Effect) : Prop where
  given : o.signal.isGiven = true
  unbegun : begun log = 0
  failed : (countPhases Phase.isBackoff log = 0 ∧
      o.machine.hub.counters.retryableFailures = failures) ∨
    (countPhases Phase.isBackoff log ≤ 1 ∧
      o.machine.hub.counters.retryableFailures = failures + 1 ∧ o.machine.position.IsHalted)

namespace Resigned

variable {failures : UInt64} {log : List Effect}

/-- A reaction that begins no session, shows no wait and counts no failure. -/
theorem keeps (h : Resigned failures o log) {r : Supervisor β τ × List Effect}
    (unbegun : begun r.2 = 0) (unwaited : countPhases Phase.isBackoff r.2 = 0)
    (uncounted : r.1.hub.counters.retryableFailures = o.machine.hub.counters.retryableFailures)
    (halted : o.machine.position.IsHalted → r.1.position.IsHalted) :
    Resigned failures { o with machine := r.1 } (log ++ r.2) where
  given := h.given
  unbegun := by rw [begun_append, h.unbegun, unbegun]
  failed := by
    rw [countPhases_append, unwaited, Nat.add_zero]
    rcases h.failed with ⟨never, same⟩ | ⟨once, same, past⟩
    · exact .inl ⟨never, uncounted.trans same⟩
    · exact .inr ⟨once, uncounted.trans same, halted past⟩

/-- The first failure since then. -/
theorem fails (h : Resigned failures o log) (running : ¬o.machine.position.IsHalted)
    (policy : Backoff) (e : SourceError) :
    Resigned failures { o with machine := (o.machine.fail policy e).1 }
      (log ++ (o.machine.fail policy e).2) := by
  obtain ⟨never, same⟩ : countPhases Phase.isBackoff log = 0 ∧
      o.machine.hub.counters.retryableFailures = failures :=
    h.failed.resolve_right fun later => running later.2.2
  have quiet := begun_of_isQuiet (Quietly.fail (s := o.machine) policy e).effects
  refine ⟨h.given, by rw [begun_append, h.unbegun, quiet], ?_⟩
  rw [countPhases_append, never, Nat.zero_add]
  rcases fail_cases policy e o.machine with ⟨-, eq⟩ | ⟨-, -, eq⟩ | ⟨-, -, eq⟩
  · rw [eq]
    exact .inl ⟨rfl, same⟩
  · rw [eq]
    exact .inr ⟨Nat.le_refl 1, congrArg (· + 1) same, trivial⟩
  · rw [eq]
    exact .inr ⟨Nat.zero_le 1, congrArg (· + 1) same, trivial⟩

/-- Ending on request. -/
theorem stops (h : Resigned failures o log) :
    Resigned failures { o with machine := o.machine.stop.1 } (log ++ o.machine.stop.2) := by
  cases position : o.machine.position with
  | ended ending =>
      have rests : o.machine.stop = (o.machine, []) := by
        unfold stop
        rw [position]
      rw [rests]
      exact h.keeps (r := (_, [])) rfl rfl rfl id
  | idle | beginning | connecting | listing | placing | subscribing | streaming | sleeping =>
      have running : o.machine.position.ending? = none := by
        rw [position]
        rfl
      have shown : begun (farewell o.machine) = 0 ∧
          countPhases Phase.isBackoff (farewell o.machine) = 0 := by
        unfold farewell
        split <;> exact ⟨rfl, rfl⟩
      rw [stop_of_running running]
      exact h.keeps (r := (_, _)) shown.1 shown.2 rfl fun _ => trivial

/-- A poll, in which the machine looks where it always does. -/
theorem polled (h : Resigned failures o log) {stopping : Bool} {ready : Option Event}
    (looks : o.machine.position.looks = true → stopping = true)
    {r : Supervisor β τ × List Effect}
    (step : Step settings subscription o.machine stopping ready r) :
    Resigned failures { o with machine := r.1 } (log ++ r.2) := by
  have unlooked {p : Position} (position : o.machine.position = p) (looking : p.looks = true)
      (unseen : stopping = false) : False := by
    rw [position] at looks
    rw [looks looking] at unseen
    cases unseen
  cases step with
  | rest => exact h.keeps (r := (_, [])) rfl rfl rfl id
  | stopped => exact h.stops
  | began position | woken position | connecting position =>
      exact (unlooked position rfl rfl).elim
  | connected position | crashed position | listed position | bootstrapped position
  | subscribed position | accepted position | late position =>
      refine h.keeps rfl rfl rfl ?_
      rw [position]
      exact False.elim
  | broken breaks => exact h.fails breaks.not_isHalted _ _

theorem happen (h : Resigned failures o log) (i : Incident β τ) :
    Resigned failures (o.happen settings subscription i).1
      (log ++ (o.happen settings subscription i).2) := by
  cases i with
  | request | abandon =>
      refine ⟨isGiven_happen settings subscription h.given _, ?_, ?_⟩
      · rw [begun_append, h.unbegun]
        rfl
      · rw [countPhases_append]
        exact h.failed
  | register | deregister | remember =>
      exact h.keeps (r := (_, [])) rfl rfl rfl id
  | poll afresh ready =>
      refine h.polled ?_ (step_poll (o.sees afresh) ready)
      intro looks
      rw [sees, h.given, looks]
      exact Bool.or_true afresh

end Resigned

theorem resigned_run (given : o.signal.isGiven = true) (later : List (Incident β τ)) :
    Resigned o.machine.hub.counters.retryableFailures (run settings subscription later o).1
      (run settings subscription later o).2 :=
  run_induction ⟨given, rfl, .inl ⟨rfl, rfl⟩⟩ (fun _ _ i h => h.happen i) later

/-! ## Runs -/

/-- **After the end has been asked for.** Let `s` be a machine, however it got there, whose owner
has asked for the end or is no more.

At its next look, and so at the latest when it is polled afresh, it ends in good order, whatever has
come at the same moment; it shows that and nothing else, and nothing changes afterwards. If its
session fails before that, a fatal failure is the end as ever; any other is counted and a wait is
shown, and the next poll is the end in good order. No session begins, and there is at most one
wait. -/
theorem ends_on_request (settings : SyncSettings) (subscription : Subscription β τ)
    (words : List UInt64) (memory : τ) {earlier : List (Incident β τ)}
    (asked : ∃ i ∈ earlier, i.asks = true) :
    let o := (run settings subscription earlier (start words memory)).1
    let s := o.machine
    (∀ afresh ready later, s.position.ending? = none → afresh = true ∨ s.position.looks = true →
      let r := run settings subscription (.poll afresh ready :: later) o
      Ended (.finished (.ok ())) s.hub.current s.hub.counters r.1 ∧ r.2 = farewell s) ∧
    (∀ e failure later, Breaks settings.requestTimeout s.position e failure →
      let count := Saturating.next32 s.failures
      let delay := (settings.policy.delay (count - 1) s.words).1
      let r := run settings subscription (.poll false (some e) :: later) o
      (failure.isRetryable = false →
        Ended (.finished (.error (.nonRetryable failure))) s.hub.current s.hub.counters r.1 ∧
          r.2 = [.phase .stopped]) ∧
      (failure.isRetryable = true → settings.policy.allowsRetry count = false →
        Ended (.finished (.error (.retriesExhausted count failure))) s.hub.current
          (counted s.hub.counters) r.1 ∧ r.2 = [.phase .stopped]) ∧
      (failure.isRetryable = true → settings.policy.allowsRetry count = true →
        (∃ i ∈ later, i.isPoll = true) →
        Ended (.finished (.ok ())) s.hub.current (counted s.hub.counters) r.1 ∧
          r.2 = [.phase (.backoff count delay), .sleep delay, .phase .stopped])) ∧
    ∀ later,
      let r := run settings subscription later o
      begun r.2 = 0 ∧ countPhases Phase.isBackoff r.2 ≤ 1 ∧
        (r.1.machine.hub.counters.retryableFailures = s.hub.counters.retryableFailures ∨
          r.1.machine.hub.counters.retryableFailures = s.hub.counters.retryableFailures + 1) := by
  intro o s
  have given : o.signal.isGiven = true := isGiven_run asked _
  refine ⟨fun afresh ready later running looks => ?_, fun e failure later breaks => ?_,
    fun later => ?_⟩
  · have seen : o.sees afresh = true := by
      rw [sees, given, Bool.true_and, Bool.or_eq_true]
      exact looks
    exact ended_of_seen settings subscription seen running ready later
  · exact ended_of_breaks given breaks later
  · have resigned : Resigned s.hub.counters.retryableFailures (run settings subscription later o).1
        (run settings subscription later o).2 := resigned_run given later
    refine ⟨resigned.unbegun, ?_⟩
    rcases resigned.failed with ⟨never, same⟩ | ⟨once, more, -⟩
    · exact ⟨by rw [never]; exact Nat.zero_le 1, .inl same⟩
    · exact ⟨once, .inr more⟩

/-- The owner gives up a machine that opens its first connection. -/
def abandonedWhileConnecting : List (Incident Unit Unit) :=
  [.poll true none, .poll false none, .abandon]

/-- An open connection that comes at the same moment is not used; a refused one, if that was learnt
before the look, is still counted and waited out. -/
theorem ends_on_request_while_connecting :
    let o := (run plainSettings noSubscription abandonedWhileConnecting (start [] ())).1
    let opened := run plainSettings noSubscription
      [.poll true (some (.connected (.answered (.ok ()))))] o
    let refused := run plainSettings noSubscription
      [.poll false (some (.connected (.answered (.error (.unavailable "down"))))),
        .poll true none] o
    Ended (.finished (.ok ())) none ⟨1, 0, 0, 0, 0⟩ opened.1 ∧ opened.2 = [.phase .stopped] ∧
    Ended (.finished (.ok ())) none ⟨1, 0, 0, 0, 1⟩ refused.1 ∧
    refused.2 =
      [.phase (.backoff 1 (.ofMillis 1000)), .sleep (.ofMillis 1000), .phase .stopped] := by
  have asked : ∃ i ∈ abandonedWhileConnecting, i.asks = true :=
    ⟨.abandon, by simp [abandonedWhileConnecting], rfl⟩
  have breaks : Breaks plainSettings.requestTimeout .connecting
      (.connected (.answered (.error (.unavailable "down")))) (.unavailable "down") := .refused rfl
  obtain ⟨looks, fails, -⟩ := ends_on_request plainSettings noSubscription [] () asked
  obtain ⟨ended, log⟩ := looks true (some (.connected (.answered (.ok ())))) [] rfl (.inl rfl)
  obtain ⟨-, -, waits⟩ := fails _ _ [.poll true none] breaks
  obtain ⟨ended', log'⟩ := waits rfl rfl ⟨_, List.mem_cons_self, rfl⟩
  have delay : (plainSettings.policy.delay 0 []).1 = .ofMillis 1000 := by decide +kernel
  refine ⟨ended, log, ended', ?_⟩
  rw [← delay]
  exact log'

end Owned
end HexWorld
