import HexWorld.Proofs.Sync.Backoff
import HexWorld.Proofs.Sync.Course

/-!
# `Proofs.Sync.Rounds` — a run is a sequence of rounds

A round is one attempt: the phase that opens it, a session that comes as far as it does, and how it
closes. What is told about a run is told in whole rounds, but for the last one, which may go on. So
the phases that readers see obey a small grammar, and the attempts, the session numbers and the
waits in them follow from the rounds alone.

## Contents
- `Reach`, `Close`, `Round`, with the marks and the phases of a round.
- `Round.At`: where the machine stands in its last round.
- `Rounds`, `InRow` and `Told.inRounds`: what is told of an outline is told in rounds.
- `Told.of_streaming`, `Told.of_stopped`: what is told when a session number or the end is shown.
- `Growing`: how waits grow from round to round.
- `Supervisor.phases_in_rounds`.
-/

namespace HexWorld

/-! ## Rounds -/

/-- How far the session of a round has come. -/
inductive Reach where
  | unbegun
  | connecting
  | opened
  | described
  /-- The subscription stands, and so many updates have been accepted. -/
  | streaming (session : UInt64) (accepted : Nat)

namespace Reach

def marks : Reach → List Mark
  | unbegun => []
  | connecting => [.begun]
  | opened => [.begun, .opened]
  | described => [.begun, .opened, .described]
  | streaming session accepted =>
    [.begun, .opened, .described, .subscribed, .shown (.streaming session)] ++
      List.replicate accepted .accepted

def phases : Reach → List Phase
  | streaming session _ => [.streaming session]
  | _ => []

def accepted : Reach → Nat
  | streaming _ accepted => accepted
  | _ => 0

def stage : Reach → Stage
  | unbegun => .beginning
  | connecting => .connecting
  | opened => .opened
  | described => .described
  | streaming .. => .streaming

/-- Before the stream, the stage tells how far a session has come. -/
theorem eq_of_stage {r reach : Reach} (same : r.stage = reach.stage)
    (before : reach.stage ≠ .streaming) : r = reach ∧ r.accepted = 0 := by
  cases reach with
  | streaming => exact absurd rfl before
  | unbegun | connecting | opened | described =>
      cases r <;> cases same
      exact ⟨rfl, rfl⟩

theorem phases_marks (r : Reach) : r.marks.filterMap Mark.phase? = r.phases := by
  cases r with
  | unbegun | connecting | opened | described => rfl
  | streaming session accepted =>
      unfold marks
      rw [List.filterMap_append, List.filterMap_replicate_of_none rfl]
      rfl

end Reach

/-- How a round closes. -/
inductive Close where
  | going
  | crashed
  | stopped
  /-- The session has failed, and that was the end. -/
  | final (failure : SourceError)
  /-- The session has failed, and the wait for the next round has begun. -/
  | waiting (failure : SourceError) (attempt : UInt32) (delay : Duration)
  /-- The wait was over because a stop was requested. -/
  | interrupted (failure : SourceError) (attempt : UInt32) (delay : Duration)

namespace Close

def marks : Close → List Mark
  | going => []
  | crashed => [.crashed]
  | stopped => [.shown .stopped]
  | final e => [.failed e, .shown .stopped]
  | waiting e attempt delay => [.failed e, .shown (.backoff attempt delay)]
  | interrupted e attempt delay =>
    [.failed e, .shown (.backoff attempt delay), .shown .stopped]

def phases : Close → List Phase
  | going | crashed => []
  | stopped | final _ => [.stopped]
  | waiting _ attempt delay => [.backoff attempt delay]
  | interrupted _ attempt delay => [.backoff attempt delay, .stopped]

/-- The wait that follows the round, under the number of the next attempt. -/
def wait? : Close → Option (UInt32 × Duration)
  | waiting _ attempt delay | interrupted _ attempt delay => some (attempt, delay)
  | _ => none

/-- Nothing follows the round. -/
def IsLast : Close → Prop
  | going | waiting .. => False
  | _ => True

theorem phases_marks (c : Close) : c.marks.filterMap Mark.phase? = c.phases := by
  cases c <;> rfl

end Close

/-- One attempt at a session. -/
structure Round where
  attempt : UInt32
  reach : Reach
  close : Close

namespace Round

def marks (r : Round) : List Mark :=
  .shown (.bootstrapping r.attempt) :: (r.reach.marks ++ r.close.marks)

/-- The phases of a round: its beginning, the stream if the session came so far, the wait, the
end. -/
def phases (r : Round) : List Phase :=
  .bootstrapping r.attempt :: (r.reach.phases ++ r.close.phases)

/-- The failures in a row that count after the round, but for its own. -/
def kept (r : Round) : UInt32 :=
  if r.reach.accepted = 0 then r.attempt else 0

theorem phases_marks (r : Round) : r.marks.filterMap Mark.phase? = r.phases := by
  show Phase.bootstrapping r.attempt :: (r.reach.marks ++ r.close.marks).filterMap Mark.phase? = _
  rw [List.filterMap_append, r.reach.phases_marks, r.close.phases_marks]
  rfl

/-- The wait of the round counts one failure more than the round kept, as far as the count goes, and
is one that the policy provides. -/
def IsSound (policy : Backoff) (r : Round) : Prop :=
  ∀ attempt delay, r.close.wait? = some (attempt, delay) →
    attempt.toNat = min (r.kept.toNat + 1) (UInt32.size - 1) ∧
      ∃ words, delay = (policy.delay (attempt - 1) words).1

/-- Where the machine stands in its last round. -/
inductive At (r : Round) (o : Outline) : Prop where
  | going (close : r.close = .going) (stage : o.stage = r.reach.stage)
      (failures : o.failures = r.kept)
  | waiting {failure delay} (close : r.close = .waiting failure o.failures delay)
      (stage : o.stage = .sleeping)
  | ended {ending} (close : r.close.IsLast) (stage : o.stage = .ended ending)

end Round

/-- A sequence of rounds and its last one. Every other round is followed by a wait, and the wait
tells the number of the next attempt. -/
inductive Rounds (policy : Backoff) : List Round → Round → Prop where
  | first {r} (attempt : r.attempt = 0) (sound : r.IsSound policy) : Rounds policy [] r
  | next {front r failure attempt delay next} (h : Rounds policy front r)
      (close : r.close = .waiting failure attempt delay) (follows : next.attempt = attempt)
      (sound : next.IsSound policy) : Rounds policy (front ++ [r]) next

namespace Rounds

variable {policy : Backoff} {front : List Round} {r r' : Round}

theorem sound (h : Rounds policy front r) : r.IsSound policy := by
  cases h with
  | first _ sound | next _ _ _ sound => exact sound

/-- The last round goes on. -/
theorem goesOn (h : Rounds policy front r) (attempt : r'.attempt = r.attempt)
    (sound : r'.IsSound policy) : Rounds policy front r' := by
  cases h with
  | first zero => exact .first (attempt.trans zero) sound
  | next before close follows => exact .next before close (attempt.trans follows) sound

end Rounds

/-- Rounds in a row, each of the policy's waits in its place. -/
structure InRow (policy : Backoff) (rounds : List Round) : Prop where
  first : ∀ a, rounds.head? = some a → a.attempt = 0
  /-- A round comes after a wait, and takes its attempt from it. -/
  next : ∀ before a b after, rounds = before ++ a :: b :: after →
    ∃ failure delay, a.close = .waiting failure b.attempt delay
  sound : ∀ a ∈ rounds, a.IsSound policy

theorem InRow.nil (policy : Backoff) : InRow policy [] where
  first _ head := by cases head
  next before _ _ _ split := by simp at split
  sound := List.forall_mem_nil _

theorem InRow.singleton {policy : Backoff} {r : Round} (attempt : r.attempt = 0)
    (sound : r.IsSound policy) : InRow policy [r] where
  first a head := by
    cases head
    exact attempt
  next before a b after split := by
    have lengths := congrArg List.length split
    simp only [List.length_append, List.length_cons, List.length_nil] at lengths
    omega
  sound := by
    intro a ha
    rw [List.mem_singleton.mp ha]
    exact sound

theorem InRow.concat {policy : Backoff} {front : List Round} {r last : Round}
    (h : InRow policy (front ++ [r])) {failure : SourceError} {delay : Duration}
    (close : r.close = .waiting failure last.attempt delay) (sound : last.IsSound policy) :
    InRow policy (front ++ [r] ++ [last]) where
  first a head := by
    refine h.first a ?_
    cases front with
    | nil | cons => exact head
  next before a b after split := by
    rcases split_concat split with ⟨-, -, none⟩ | ⟨between, earlier, rest⟩
    · cases none
    · cases between with
      | nil =>
          -- The pair is the last two rounds.
          cases rest
          obtain ⟨-, same⟩ := List.append_inj' earlier rfl
          cases same
          exact ⟨failure, delay, close⟩
      | cons _ between =>
          cases rest
          exact h.next before a b between earlier
  sound a ha := by
    rcases List.mem_append.mp ha with ha | ha
    · exact h.sound a ha
    · rw [List.mem_singleton.mp ha]
      exact sound

theorem Rounds.inRow {policy : Backoff} {front : List Round} {r : Round}
    (h : Rounds policy front r) : InRow policy (front ++ [r]) := by
  induction h with
  | first attempt sound => exact .singleton attempt sound
  | next _ close follows sound ih => exact ih.concat (follows ▸ close) sound

/-! ## What is told is told in rounds -/

variable {policy : Backoff} {mayStop : Prop} {told marks : List Mark} {o o' : Outline}

/-- The marks of a run so far, put into rounds, with the place of the machine in the last one. -/
inductive InRounds (policy : Backoff) : List Mark → Outline → Prop where
  | unstarted : InRounds policy [] .start
  | started {front r o} (rounds : Rounds policy front r) (place : r.At o) :
      InRounds policy ((front ++ [r]).flatMap Round.marks) o

namespace InRounds

variable {front : List Round} {r : Round}

/-- The last round goes on, and tells more. -/
theorem goesOn (rounds : Rounds policy front r) (r' : Round) (attempt : r'.attempt = r.attempt)
    (sound : r'.IsSound policy) (more : r'.marks = r.marks ++ marks) (place : r'.At o') :
    InRounds policy ((front ++ [r]).flatMap Round.marks ++ marks) o' := by
  have same : (front ++ [r]).flatMap Round.marks ++ marks =
      (front ++ [r']).flatMap Round.marks := by
    simp only [List.flatMap_append, List.flatMap_singleton, more, List.append_assoc]
  rw [same]
  exact .started (rounds.goesOn attempt sound) place

/-- The session of the last round comes further. -/
theorem reaches (rounds : Rounds policy front r) (close : r.close = .going) (reach : Reach)
    (more : reach.marks = r.reach.marks ++ marks) (stage : o'.stage = reach.stage)
    (failures : o'.failures = if reach.accepted = 0 then r.attempt else 0) :
    InRounds policy ((front ++ [r]).flatMap Round.marks ++ marks) o' := by
  refine goesOn rounds { r with reach } rfl ?_ ?_ (.going close stage failures)
  · intro attempt delay wait
    rw [show Close.wait? _ = r.close.wait? from rfl, close] at wait
    cases wait
  · unfold Round.marks
    rw [more, close]
    simp [Close.marks]

/-- The last round closes. -/
theorem closes (rounds : Rounds policy front r) (close : r.close = .going) (c : Close)
    (sound : Round.IsSound policy { r with close := c })
    (place : Round.At { r with close := c } o') :
    InRounds policy ((front ++ [r]).flatMap Round.marks ++ c.marks) o' := by
  refine goesOn rounds { r with close := c } rfl sound ?_ place
  have open_marks : r.close.marks = [] := congrArg Close.marks close
  show _ :: (r.reach.marks ++ c.marks) = _ :: (r.reach.marks ++ r.close.marks) ++ c.marks
  rw [open_marks, List.append_nil, List.cons_append]

end InRounds

namespace Round.At

variable {r : Round}

theorem of_inSession (place : r.At o) (inSession : o.stage.InSession) :
    r.close = .going ∧ o.failures = r.kept := by
  cases place with
  | going close _ failures => exact ⟨close, failures⟩
  | waiting _ stage => exact absurd inSession (stage ▸ id)
  | ended _ stage => exact absurd stage (inSession.isRunning _)

/-- Before the stream, the place of the machine says all about the last round. -/
theorem eq_of_stage (place : r.At o) (reach : Reach) (stage : o.stage = reach.stage)
    (before : reach.stage ≠ .streaming) : r = ⟨o.failures, reach, .going⟩ := by
  cases place with
  | going close own failures =>
      obtain ⟨attempt, own_reach, c⟩ := r
      obtain rfl : c = .going := close
      have same : own_reach.stage = reach.stage := own.symm.trans stage
      obtain ⟨rfl, unstreamed⟩ := Reach.eq_of_stage same before
      have attempts : o.failures = attempt := failures.trans (if_pos unstreamed)
      rw [attempts]
  | waiting _ asleep =>
      have none : reach.stage = .sleeping := stage.symm.trans asleep
      cases reach <;> cases none
  | ended _ ended =>
      have none : reach.stage = .ended _ := stage.symm.trans ended
      cases reach <;> cases none

theorem eq_of_streaming (place : r.At o) (stage : o.stage = .streaming) :
    ∃ session accepted, r = ⟨r.attempt, .streaming session accepted, .going⟩ := by
  cases place with
  | going close own =>
      obtain ⟨attempt, reach, c⟩ := r
      obtain rfl : c = .going := close
      have streams : reach.stage = .streaming := own.symm.trans stage
      cases reach with
      | streaming session accepted => exact ⟨session, accepted, rfl⟩
      | unbegun | connecting | opened | described => cases streams
  | waiting _ other | ended _ other => cases stage.symm.trans other

/-- A machine that sleeps, or that has never been polled, is in no session. -/
theorem waiting_of_rounds (place : r.At o) (stage : o.stage = .idle ∨ o.stage = .sleeping) :
    ∃ failure delay, r.close = .waiting failure o.failures delay := by
  cases place with
  | waiting close => exact ⟨_, _, close⟩
  | going _ own =>
      rw [own] at stage
      cases reach : r.reach <;> rw [reach] at stage <;> rcases stage with stage | stage <;>
        cases stage
  | ended _ ended => rcases stage with stage | stage <;> cases stage.symm.trans ended

end Round.At

theorem Round.isSound_of_wait_none {r : Round} (none : r.close.wait? = none) :
    r.IsSound policy := by
  intro attempt delay wait
  cases none.symm.trans wait

/-- What is told first begins the first round. -/
theorem InRounds.of_start (advance : Advance policy mayStop .start marks o') :
    InRounds policy marks o' := by
  cases advance with
  | rests => exact .unstarted
  | rounds =>
      have first : Rounds policy [] ⟨0, .unbegun, .going⟩ :=
        .first rfl (Round.isSound_of_wait_none rfl)
      exact .started first (.going rfl rfl rfl)
  | begins stage | opens stage | crashes stage | describes stage | subscribes stage
  | accepts stage => cases stage
  | waits inSession | exhausts inSession | refuses inSession => exact inSession.elim
  | stops _ started =>
      -- A stop shows the first phase of the round before it stops.
      exact absurd rfl started

/-- What is told next continues the last round, or begins another. -/
theorem InRounds.step (h : InRounds policy told o) (advance : Advance policy mayStop o marks o') :
    InRounds policy (told ++ marks) o' := by
  cases h with
  | unstarted => exact .of_start advance
  | @started front r _ rounds place =>
      -- The stage of the machine tells how far the last round has come; each step adds its marks
      -- to that round, closes it, or opens the next one.
      cases advance with
      | rests =>
          rw [List.append_nil]
          exact .started rounds place
      | rounds stage =>
          obtain ⟨failure, delay, close⟩ := place.waiting_of_rounds stage
          have next : Rounds policy (front ++ [r]) ⟨o.failures, .unbegun, .going⟩ :=
            .next rounds close rfl (Round.isSound_of_wait_none rfl)
          have told_all : (front ++ [r]).flatMap Round.marks ++
              [Mark.shown (.bootstrapping o.failures)] =
              (front ++ [r] ++ [(⟨o.failures, .unbegun, .going⟩ : Round)]).flatMap Round.marks := by
            simp only [List.flatMap_append, List.flatMap_singleton]
            rfl
          rw [told_all]
          exact .started next (.going rfl rfl rfl)
      | begins stage =>
          obtain rfl := place.eq_of_stage .unbegun stage Stage.noConfusion
          exact .reaches rounds rfl .connecting rfl rfl rfl
      | opens stage =>
          obtain rfl := place.eq_of_stage .connecting stage Stage.noConfusion
          exact .reaches rounds rfl .opened rfl rfl rfl
      | describes stage =>
          obtain rfl := place.eq_of_stage .opened stage Stage.noConfusion
          exact .reaches rounds rfl .described rfl rfl rfl
      | subscribes stage =>
          obtain rfl := place.eq_of_stage .described stage Stage.noConfusion
          exact .reaches rounds rfl (.streaming o.session 0) rfl rfl rfl
      | accepts stage =>
          obtain ⟨session, accepted, shape⟩ := place.eq_of_streaming stage
          rw [shape] at rounds ⊢
          refine .reaches rounds rfl (.streaming session (accepted + 1)) ?_ stage rfl
          show _ ++ List.replicate (accepted + 1) Mark.accepted = _ ++ _ ++ _
          rw [List.replicate_succ', List.append_assoc]
      | crashes stage =>
          have close := (place.of_inSession (stage ▸ trivial)).1
          exact .closes rounds close .crashed (Round.isSound_of_wait_none rfl)
            (.ended trivial rfl)
      | @waits failure words inSession =>
          obtain ⟨close, failures⟩ := place.of_inSession inSession
          refine .closes rounds close (.waiting failure _ _) ?_ (.waiting rfl rfl)
          rintro attempt delay ⟨rfl, rfl⟩
          refine ⟨?_, words, rfl⟩
          rw [Saturating.toNat_next32, failures]
          rfl
      | exhausts inSession =>
          have close := (place.of_inSession inSession).1
          exact .closes rounds close (.final _) (Round.isSound_of_wait_none rfl)
            (.ended trivial rfl)
      | refuses inSession =>
          have close := (place.of_inSession inSession).1
          exact .closes rounds close (.final _) (Round.isSound_of_wait_none rfl)
            (.ended trivial rfl)
      | stops _ _ running =>
          cases place with
          | going close =>
              exact .closes rounds close .stopped (Round.isSound_of_wait_none rfl)
                (.ended trivial rfl)
          | @waiting failure delay close =>
              refine .goesOn rounds { r with close := .interrupted failure o.failures delay } rfl
                ?_ ?_ (.ended trivial rfl)
              · exact fun attempt delay wait => rounds.sound attempt delay (close ▸ wait)
              · simp [Round.marks, close, Close.marks]
          | ended _ ended => exact absurd ended (running _)

/-- **What is told is told in rounds.** -/
theorem Told.inRounds (h : Told policy mayStop told o) : InRounds policy told o := by
  induction h with
  | start => exact .unstarted
  | step _ advance ih => exact ih.step advance

theorem InRounds.exists_inRow (h : InRounds policy told o) :
    ∃ rounds, told = rounds.flatMap Round.marks ∧ InRow policy rounds := by
  cases h with
  | unstarted => exact ⟨[], rfl, .nil policy⟩
  | started rounds => exact ⟨_, rfl, rounds.inRow⟩

/-! ## Session numbers and the end -/

/-- The machine counts the sessions that it begins, as far as its count goes. -/
theorem Told.session (h : Told policy mayStop told o) :
    o.session.toNat = min (told.countP Mark.isBegun) (UInt64.size - 1) := by
  induction h with
  | start => rfl
  | @step told marks o o' _ advance ih =>
      rw [List.countP_append]
      cases advance with
      | begins =>
          rw [Saturating.toNat_next64, ih]
          show _ = min (told.countP Mark.isBegun + 1) _
          omega
      | rests | rounds | opens | crashes | describes | subscribes | accepts | waits | exhausts
      | refuses | stops => exact ih

/-- A stream is shown once the session is subscribed, under the number of sessions begun by then. -/
theorem Told.of_streaming (h : Told policy mayStop told o) {past rest : List Mark}
    {session : UInt64} (split : told = past ++ .shown (.streaming session) :: rest) :
    session.toNat = min (past.countP Mark.isBegun) (UInt64.size - 1) := by
  refine h.split_induction
    (P := fun past _ _ => session.toNat = min (past.countP Mark.isBegun) (UInt64.size - 1))
    ?_ (fun now _ => now) split
  intro told o rest o' before h advance
  have now : Mark.shown (.streaming session) ∈ before ++ .shown (.streaming session) :: rest := by
    simp
  generalize shape : before ++ .shown (.streaming session) :: rest = marks at advance now
  cases advance with
  | subscribes =>
      rcases split_pair shape.symm with ⟨-, other, -⟩ | ⟨rfl, same, -⟩
      · cases other
      · cases same
        rw [h.session, List.countP_append]
        rfl
  | rests | rounds | begins | opens | crashes | describes | accepts | waits | exhausts | refuses
  | stops => simp at now

/-- A stop is shown last, and the machine has ended in good order. -/
theorem Told.of_stopped (h : Told policy mayStop told o) {past rest : List Mark}
    (split : told = past ++ .shown .stopped :: rest) :
    rest = [] ∧ ∃ outcome, o.stage = .ended (.finished outcome) := by
  refine h.split_induction
    (P := fun _ rest o => rest = [] ∧ ∃ outcome, o.stage = .ended (.finished outcome)) ?_ ?_ split
  · intro told o rest o' before _ advance
    have now : Mark.shown .stopped ∈ before ++ .shown .stopped :: rest := by simp
    generalize shape : before ++ .shown .stopped :: rest = marks at advance now
    cases advance with
    | stops =>
        have last : before = [] ∧ rest = [] := by simpa [List.append_eq_singleton_iff] using shape
        exact ⟨last.2, _, rfl⟩
    | exhausts | refuses =>
        rcases split_pair shape.symm with ⟨-, other, -⟩ | ⟨-, -, last⟩
        · cases other
        · exact ⟨last, _, rfl⟩
    | rests | rounds | begins | opens | crashes | describes | subscribes | accepts | waits =>
        simp at now
  · rintro past rest o marks o' ⟨rfl, outcome, ended⟩ advance
    obtain ⟨rfl, rfl⟩ := advance.of_ended ended
    exact ⟨rfl, outcome, ended⟩

/-- A machine that has ended in good order has shown it. -/
theorem Told.getLast_of_finished (h : Told policy mayStop told o) {outcome : Except FatalError Unit}
    (finished : o.stage = .ended (.finished outcome)) : told.getLast? = some (.shown .stopped) := by
  induction h with
  | start => cases finished
  | step _ advance ih =>
      cases advance with
      | rests =>
          rw [List.append_nil]
          exact ih finished
      | stops => exact List.getLast?_concat
      | exhausts | refuses =>
          rw [List.getLast?_append]
          rfl
      | accepts stage => cases stage.symm.trans finished
      | rounds | begins | opens | crashes | describes | subscribes | waits => cases finished

/-! ## Waits without a cut -/

/-- The waits after rounds grow from the base to the bound, and start over after a session that
accepted an update. -/
structure Growing (policy : Backoff) (rounds : List Round) : Prop where
  ceiling : ∀ r ∈ rounds, ∀ attempt delay, r.close.wait? = some (attempt, delay) →
    delay = policy.ceiling (attempt - 1)
  base : ∀ r ∈ rounds, rounds.head? = some r ∨ 0 < r.reach.accepted →
    ∀ attempt delay, r.close.wait? = some (attempt, delay) → delay = policy.base
  grows : ∀ before a b after, rounds = before ++ a :: b :: after → b.reach.accepted = 0 →
    ∀ attempt delay next later, a.close.wait? = some (attempt, delay) →
      b.close.wait? = some (next, later) → delay.nanos ≤ later.nanos
  bounded : ∀ r ∈ rounds, ∀ attempt delay, r.close.wait? = some (attempt, delay) →
    delay.nanos ≤ policy.bound.nanos

/-- A wait without a cut is that of the failures that the round kept. -/
theorem Round.IsSound.wait_eq {r : Round} (sound : r.IsSound policy)
    (uncut : policy.jitter.toRat? = some 0) {attempt : UInt32} {delay : Duration}
    (wait : r.close.wait? = some (attempt, delay)) :
    (attempt - 1).toNat = min r.kept.toNat (UInt32.size - 2) ∧
      delay = policy.ceiling (attempt - 1) := by
  obtain ⟨counted, words, rfl⟩ := sound attempt delay wait
  refine ⟨?_, policy.delay_of_jitter_zero uncut _ words⟩
  have one : (1 : UInt32).toNat = 1 := rfl
  have room : 2 ≤ UInt32.size := by decide
  have positive : (1 : UInt32) ≤ attempt := by
    rw [UInt32.le_iff_toNat_le, counted, one]
    omega
  rw [UInt32.toNat_sub_of_le _ _ positive, counted, one]
  omega

/-- **Waits grow**, if nothing is cut off. -/
theorem InRow.growing {rounds : List Round} (h : InRow policy rounds)
    (uncut : policy.jitter.toRat? = some 0) (counted : policy.base.nanos < Duration.limit)
    (ordered : policy.base.nanos ≤ policy.bound.nanos) : Growing policy rounds := by
  refine ⟨fun r hr _ _ wait => ((h.sound r hr).wait_eq uncut wait).2, ?_, ?_, ?_⟩
  · intro r hr first attempt delay wait
    have kept : r.kept = 0 := by
      unfold Round.kept
      rcases first with first | accepted
      · rw [h.first r first, ite_self]
      · exact if_neg (Nat.ne_of_gt accepted)
    obtain ⟨value, rfl⟩ := (h.sound r hr).wait_eq uncut wait
    -- The round kept no failure, so its own is the first.
    have zero : attempt - 1 = 0 := by
      rw [← UInt32.toNat_inj, value, kept]
      rfl
    rw [zero]
    exact Backoff.ceiling_zero counted ordered
  · intro before a b after split accepted attempt delay next later wait wait'
    obtain ⟨failure, _, close⟩ := h.next before a b after split
    have own : b.attempt = attempt := by
      rw [close] at wait
      exact congrArg Prod.fst (Option.some.inj wait)
    have kept : b.kept = b.attempt := if_pos accepted
    have sound : a.IsSound policy := h.sound a (by simp [split])
    obtain ⟨value, rfl⟩ := sound.wait_eq uncut wait
    obtain ⟨value', rfl⟩ := (h.sound b (by simp [split])).wait_eq uncut wait'
    -- The second wait counts at least the failures that the first one counts.
    refine policy.ceiling_mono ?_
    rw [UInt32.le_iff_toNat_le, value, value', kept, own, (sound attempt _ wait).1]
    generalize UInt32.size = size
    omega
  · intro r hr attempt delay wait
    rw [((h.sound r hr).wait_eq uncut wait).2]
    exact policy.ceiling_le_bound _

/-! ## Runs -/

namespace Supervisor

variable {β τ : Type}

/-- A phase that a course shows is told in it. -/
theorem exists_of_filterMap_phase {told : List Mark} {past rest : List Phase} {p : Phase}
    (split : told.filterMap Mark.phase? = past ++ p :: rest) :
    ∃ before after, told = before ++ .shown p :: after ∧ after.filterMap Mark.phase? = rest := by
  obtain ⟨front, back, rfl, -, later⟩ := List.filterMap_eq_append_iff.mp split
  obtain ⟨quiet, m, after, rfl, -, shows, follows⟩ := List.filterMap_eq_cons_iff.mp later
  have shown : m = .shown p := by
    cases m with
    | shown q => exact congrArg Mark.shown (Option.some.inj shows)
    | begun | opened | described | subscribed | accepted | failed | crashed => cases shows
  exact ⟨front ++ quiet, after, by rw [shown, List.append_assoc], follows⟩

/-- **The phases of a run come in rounds**, whatever the source does and whenever a stop is
requested. All that is told of a run is told in rounds: the first counts no failure, each of the
others comes after a wait and takes its attempt from it, and a wait counts one failure more than the
round before it, or the first one if the session had accepted an update. A stream is shown once its
session is subscribed, under the number of sessions begun by then. A stop is shown last, and if the
run ends in good order. Without a cut, the waits grow from the base to the bound. -/
theorem phases_in_rounds (settings : SyncSettings) (subscription : Subscription β τ)
    (words : List UInt64) (memory : τ) (moves : List (Move β τ)) :
    let r := run settings subscription moves (start words memory)
    let told := course settings subscription moves (start words memory)
    let policy := settings.policy
    ∃ rounds : List Round,
      told = rounds.flatMap Round.marks ∧
      phases r.2 = rounds.flatMap Round.phases ∧
      InRow policy rounds ∧
      (∀ past session rest, told = past ++ .shown (.streaming session) :: rest →
        session.toNat = min (past.countP Mark.isBegun) (UInt64.size - 1)) ∧
      (∀ past rest, phases r.2 = past ++ .stopped :: rest →
        rest = [] ∧ ∃ outcome, r.1.position = .ended (.finished outcome)) ∧
      (∀ outcome, r.1.position = .ended (.finished outcome) →
        (phases r.2).getLast? = some .stopped) ∧
      (policy.jitter.toRat? = some 0 → policy.base.nanos < Duration.limit →
        policy.base.nanos ≤ policy.bound.nanos → Growing policy rounds) := by
  intro r told policy
  have h : Told policy True told r.1.outline :=
    told_course settings subscription words memory fun _ _ _ => trivial
  have shown : told.filterMap Mark.phase? = phases r.2 :=
    phases_course settings subscription moves (start words memory)
  obtain ⟨rounds, all_told, row⟩ := h.inRounds.exists_inRow
  refine ⟨rounds, all_told, ?_, row, fun _ _ _ => h.of_streaming, ?_, ?_, row.growing⟩
  · rw [← shown, all_told, List.filterMap_flatMap]
    simp only [Round.phases_marks]
  · intro past rest split
    obtain ⟨before, after, split, follows⟩ := exists_of_filterMap_phase (shown.trans split)
    obtain ⟨rfl, outcome, finished⟩ := h.of_stopped split
    exact ⟨follows.symm, outcome, position_of_ended finished⟩
  · intro outcome finished
    have last := h.getLast_of_finished (congrArg Position.stage finished)
    obtain ⟨past, split⟩ := List.getLast?_eq_some_iff.mp last
    rw [← shown, split, List.filterMap_append]
    exact List.getLast?_concat

/-- Two sessions that get no connection, one that accepts an update before its subscription ends,
and a stop before the next one. -/
def restless : List (Move Unit Unit) :=
  [.poll false none, .poll false none, .poll false (some (.connected .elapsed)),
    .poll false (some .woken), .poll false none, .poll false (some (.connected .elapsed)),
    .poll false (some .woken)] ++ opening [⟨0, 0⟩] ++
    [.hear (tick 5 ⟨0, 0⟩ []), .poll false (some (.item none)), .poll false (some .woken),
      .poll true none]

theorem phases_in_rounds_restless :
    let policy := plainSettings.policy
    (policy.jitter.toRat? = some 0 ∧ policy.base.nanos < Duration.limit ∧
      policy.base.nanos ≤ policy.bound.nanos) ∧
    phases (run plainSettings noSubscription restless (start [] ())).2 =
      [.bootstrapping 0, .backoff 1 (.ofMillis 1000), .bootstrapping 1,
        .backoff 2 (.ofMillis 2000), .bootstrapping 2, .streaming 3,
        .backoff 1 (.ofMillis 1000), .bootstrapping 1, .stopped] ∧
    ∃ rounds, phases (run plainSettings noSubscription restless (start [] ())).2 =
      rounds.flatMap Round.phases ∧ InRow policy rounds ∧ Growing policy rounds := by
  intro policy
  have uncut : policy.jitter.toRat? = some 0 := by decide +kernel
  have counted : policy.base.nanos < Duration.limit := by decide +kernel
  have ordered : policy.base.nanos ≤ policy.bound.nanos := by decide +kernel
  obtain ⟨rounds, -, shown, row, -, -, -, growing⟩ :=
    phases_in_rounds plainSettings noSubscription [] () restless
  exact ⟨⟨uncut, counted, ordered⟩, by decide +kernel, rounds, shown, row,
    growing uncut counted ordered⟩

end Supervisor
end HexWorld
