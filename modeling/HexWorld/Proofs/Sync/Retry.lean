import HexWorld.Proofs.Sync.Course

/-!
# `Proofs.Sync.Retry` — when supervision gives up

Without a stop, supervision ends by the first failure that is fatal: one that no retry can mend, or
one too many in a row. The proof follows the outline of the machine. Its count of failures is that
of the course, as long as the count has room for it, so the machine and the course agree on what is
fatal; and what follows a failure in the course is either the end or the next session.

## Contents
- `failuresInRow`, `SourceError.fatal?`: what makes a failure fatal, read off the course.
- `Counted` and `Told.counted`: the machine counts what the course tells.
- `Aftermath`, `Told.answered`, `Told.ended`: what follows a failure, and what precedes the end.
- `Supervisor.Wakes`, `aftermath_wakes`: the end of a wait brings the next session.
- `ends_at_first_fatal_failure`.
-/

namespace HexWorld

/-! ## Fatal failures -/

/-- How many sessions have failed since the last accepted update. A session that accepted it counts
as the first of them once it has failed. -/
def failuresInRow (course : List Mark) : Nat :=
  (course.reverse.takeWhile (!·.isAccepted)).countP Mark.isFailed

/-- The end that a failure brings about, if it is the `count`-th in a row. A limit that the count
cannot exceed is none. -/
def SourceError.fatal? (limit : Option UInt32) (count : Nat) : SourceError → Option FatalError
  | e@(.permissionDenied _) | e@(.config _) => some (.nonRetryable e)
  | e =>
    match limit with
    | some l =>
      if l.toNat + 1 < UInt32.size ∧ count = l.toNat + 1 then some (.retriesExhausted (l + 1) e)
      else none
    | none => none

/-- The count after one more mark. -/
def Mark.tally (n : Nat) (m : Mark) : Nat :=
  if m.isAccepted then 0 else n + if m.isFailed then 1 else 0

theorem failuresInRow_append (course marks : List Mark) :
    failuresInRow (course ++ marks) = marks.foldl Mark.tally (failuresInRow course) := by
  have concat (course : List Mark) (m : Mark) :
      failuresInRow (course ++ [m]) = m.tally (failuresInRow course) := by
    unfold failuresInRow
    rw [List.reverse_concat, List.takeWhile_cons]
    cases m <;> simp [Mark.tally, Mark.isAccepted, Mark.isFailed, List.countP_cons]
  induction marks generalizing course with
  | nil => rw [List.append_nil, List.foldl_nil]
  | cons m rest ih => rw [List.append_cons, ih, concat, List.foldl_cons]

theorem SourceError.fatal?_of_final {e : SourceError} (final : e.isRetryable = false)
    (limit : Option UInt32) (count : Nat) : e.fatal? limit count = some (.nonRetryable e) := by
  cases e with
  | permissionDenied | config => rfl
  | unavailable | protocol | roomNotFound | streamEnded => cases final

theorem SourceError.fatal?_of_isRetryable {e : SourceError} (retryable : e.isRetryable = true)
    (limit : Option UInt32) (count : Nat) :
    e.fatal? limit count = limit.bind fun l =>
      if l.toNat + 1 < UInt32.size ∧ count = l.toNat + 1 then some (.retriesExhausted (l + 1) e)
      else none := by
  cases e with
  | permissionDenied | config => cases retryable
  | unavailable | protocol | roomNotFound | streamEnded => cases limit <;> rfl

/-! ## Counting -/

theorem allowsRetry_zero (policy : Backoff) : policy.allowsRetry 0 = true := by
  unfold Backoff.allowsRetry
  split
  · rfl
  next limit _ => exact decide_eq_true UInt32.zero_le

/-- As long as the machine runs it counts the failures that the course tells, as far as its count
goes, and they are not too many. -/
def Counted (policy : Backoff) (told : List Mark) (o : Outline) : Prop :=
  o.stage.IsRunning →
    o.failures.toNat = min (failuresInRow told) (UInt32.size - 1) ∧
      policy.allowsRetry o.failures = true

variable {policy : Backoff} {mayStop : Prop} {told marks : List Mark} {o o' : Outline}

theorem Counted.step (h : Counted policy told o) (advance : Advance policy mayStop o marks o') :
    Counted policy (told ++ marks) o' := by
  intro running
  rw [failuresInRow_append]
  cases advance with
  | rests => exact h running
  | rounds stage =>
      refine h ?_
      rcases stage with stage | stage <;> rw [stage] <;> exact fun _ => Stage.noConfusion
  | begins stage | opens stage | describes stage | subscribes stage =>
      refine h ?_
      rw [stage]
      exact fun _ => Stage.noConfusion
  | accepts => exact ⟨rfl, allowsRetry_zero policy⟩
  | waits stage retryable allowed =>
      -- Both counts go up by one, and stay at the limit once they have reached it.
      refine ⟨?_, allowed⟩
      rw [Saturating.toNat_next32, (h stage.isRunning).1]
      show _ = min (failuresInRow told + 1) _
      omega
  | crashes | stops | exhausts | refuses => exact absurd rfl (running _)

theorem Told.counted (h : Told policy mayStop told o) : Counted policy told o := by
  induction h with
  | start => exact fun _ => ⟨rfl, allowsRetry_zero policy⟩
  | step _ advance ih => exact ih.step advance

/-! ## What is fatal for the machine -/

/-- A failure that is waited out is not fatal. -/
theorem Counted.fatal?_eq_none (h : Counted policy told o) (stage : o.stage.InSession)
    {e : SourceError} (retryable : e.isRetryable = true)
    (allowed : policy.allowsRetry (Saturating.next32 o.failures) = true) :
    e.fatal? policy.maxRetries (failuresInRow (told ++ [.failed e])) = none := by
  have count := (h stage.isRunning).1
  have next := Saturating.toNat_next32 o.failures
  rw [SourceError.fatal?_of_isRetryable retryable, failuresInRow_append]
  show policy.maxRetries.bind (fun l => if _ ∧ failuresInRow told + 1 = _ then _ else _) = none
  unfold Backoff.allowsRetry at allowed
  cases limit : policy.maxRetries with
  | none => rfl
  | some l =>
      simp only [limit, decide_eq_true_eq, UInt32.le_iff_toNat_le] at allowed
      -- The count is at most the limit, or the limit is one that no count exceeds.
      refine if_neg ?_
      omega

/-- A failure that exhausts the retries is fatal, and the count is one above the limit. -/
theorem Counted.fatal?_eq_some (h : Counted policy told o) (stage : o.stage.InSession)
    {e : SourceError} (retryable : e.isRetryable = true)
    (forbidden : policy.allowsRetry (Saturating.next32 o.failures) = false) :
    e.fatal? policy.maxRetries (failuresInRow (told ++ [.failed e])) =
      some (.retriesExhausted (Saturating.next32 o.failures) e) := by
  obtain ⟨count, before⟩ := h stage.isRunning
  have next := Saturating.toNat_next32 o.failures
  rw [SourceError.fatal?_of_isRetryable retryable, failuresInRow_append]
  show policy.maxRetries.bind (fun l => if _ ∧ failuresInRow told + 1 = _ then _ else _) = _
  unfold Backoff.allowsRetry at before forbidden
  cases limit : policy.maxRetries with
  | none =>
      rw [limit] at forbidden
      cases forbidden
  | some l =>
      simp only [limit, decide_eq_true_eq, decide_eq_false_iff_not, UInt32.le_iff_toNat_le]
        at before forbidden
      -- The failures before were allowed and this one is not, so the count goes up here, and it
      -- has not been at its limit.
      have small : l.toNat + 1 < UInt32.size ∧ failuresInRow told + 1 = l.toNat + 1 := by omega
      have attempts : Saturating.next32 o.failures = l + 1 := by
        have sum : (l + 1).toNat = l.toNat + 1 := by
          rw [UInt32.toNat_add]
          exact Nat.mod_eq_of_lt small.1
        rw [← UInt32.toNat_inj, next, sum]
        omega
      show (if _ then _ else _) = _
      rw [if_pos small, attempts]

/-! ## What follows a failure -/

/-- While it sleeps, a machine that may not stop only wakes. -/
theorem Advance.of_sleeping (advance : Advance policy False o marks o')
    (sleeping : o.stage = .sleeping) :
    marks = [] ∧ o' = o ∨
      marks = [.shown (.bootstrapping o.failures)] ∧ o' = o.moveTo .beginning := by
  cases advance with
  | rests => exact .inl ⟨rfl, rfl⟩
  | rounds => exact .inr ⟨rfl, rfl⟩
  | begins other | opens other | crashes other | describes other | subscribes other
  | accepts other => cases sleeping.symm.trans other
  | waits inSession | exhausts inSession | refuses inSession =>
      exact absurd inSession (sleeping ▸ id)
  | stops leave => exact leave.elim

/-- At the beginning of a round, a machine that may not stop only begins its session. -/
theorem Advance.of_beginning (advance : Advance policy False o marks o')
    (beginning : o.stage = .beginning) : marks = [] ∧ o' = o ∨ marks = [.begun] := by
  cases advance with
  | rests => exact .inl ⟨rfl, rfl⟩
  | begins => exact .inr rfl
  | rounds other => rcases other with other | other <;> cases beginning.symm.trans other
  | opens other | crashes other | describes other | subscribes other | accepts other =>
      cases beginning.symm.trans other
  | waits inSession | exhausts inSession | refuses inSession =>
      exact absurd inSession (beginning ▸ id)
  | stops leave => exact leave.elim

/-- What has followed a failure that is not fatal, and where the machine stands then: it waits, or a
new round has begun, or the next session. -/
inductive Aftermath : List Mark → Stage → Prop where
  | sleeping {attempt delay} : Aftermath [.shown (.backoff attempt delay)] .sleeping
  | beginning {attempt delay next} :
      Aftermath [.shown (.backoff attempt delay), .shown (.bootstrapping next)] .beginning
  | resumed {attempt delay next rest stage} :
      Aftermath (.shown (.backoff attempt delay) :: .shown (.bootstrapping next) :: .begun :: rest)
        stage

theorem Aftermath.step {rest : List Mark} (h : Aftermath rest o.stage)
    (advance : Advance policy False o marks o') : Aftermath (rest ++ marks) o'.stage := by
  generalize stage : o.stage = at_stage at h
  cases h with
  | resumed => exact .resumed
  | sleeping =>
      rcases advance.of_sleeping stage with ⟨rfl, rfl⟩ | ⟨rfl, rfl⟩
      · exact stage ▸ .sleeping
      · exact .beginning
  | beginning =>
      rcases advance.of_beginning stage with ⟨rfl, rfl⟩ | rfl
      · exact stage ▸ .beginning
      · exact .resumed

/-- The end that a failure after `past` brings about under a limit. -/
def endOf (limit : Option UInt32) (past : List Mark) (e : SourceError) : Option FatalError :=
  e.fatal? limit (failuresInRow (past ++ [.failed e]))

/-- What has followed a failure is the end that it brings about, or else the next session. -/
def Answered (end? : Option FatalError) (rest : List Mark) (stage : Stage) : Prop :=
  match end? with
  | some cause => rest = [.shown .stopped] ∧ stage = .ended (.finished (.error cause))
  | none => Aftermath rest stage

theorem Answered.step {end? : Option FatalError} {rest : List Mark}
    (h : Answered end? rest o.stage) (advance : Advance policy False o marks o') :
    Answered end? (rest ++ marks) o'.stage := by
  cases end? with
  | none => exact Aftermath.step h advance
  | some cause =>
      obtain ⟨rfl, ended⟩ := h
      obtain ⟨rfl, rfl⟩ := advance.of_ended ended
      exact ⟨rfl, ended⟩

/-- A failure that is told is answered at once. -/
theorem Counted.answered (h : Counted policy told o) {before rest : List Mark} {e : SourceError}
    (advance : Advance policy mayStop o (before ++ .failed e :: rest) o') :
    Answered (endOf policy.maxRetries (told ++ before) e) rest o'.stage := by
  -- A failure is told together with the phase that follows it, and comes first.
  have first {p : Phase} {d : SourceError}
      (split : before ++ .failed e :: rest = [Mark.failed d, .shown p]) :
      before = [] ∧ e = d ∧ rest = [.shown p] := by
    rcases split_pair split.symm with ⟨rfl, same, rfl⟩ | ⟨-, other, -⟩
    · cases same
      exact ⟨rfl, rfl, rfl⟩
    · cases other
  have told_now : Mark.failed e ∈ before ++ .failed e :: rest := by simp
  generalize split : before ++ .failed e :: rest = marks at advance told_now
  cases advance with
  | rests | rounds | begins | opens | crashes | describes | subscribes | accepts | stops =>
      simp at told_now
  | waits stage retryable allowed =>
      obtain ⟨rfl, rfl, rfl⟩ := first split
      rw [List.append_nil, endOf, h.fatal?_eq_none stage retryable allowed]
      exact .sleeping
  | exhausts stage retryable forbidden =>
      obtain ⟨rfl, rfl, rfl⟩ := first split
      rw [List.append_nil, endOf, h.fatal?_eq_some stage retryable forbidden]
      exact ⟨rfl, rfl⟩
  | refuses stage final =>
      obtain ⟨rfl, rfl, rfl⟩ := first split
      rw [List.append_nil, endOf, SourceError.fatal?_of_final final]
      exact ⟨rfl, rfl⟩

/-- **Every failure is answered.** -/
theorem Told.answered (h : Told policy False told o) {past rest : List Mark} {e : SourceError}
    (split : told = past ++ .failed e :: rest) :
    Answered (endOf policy.maxRetries past e) rest o.stage :=
  h.split_induction (P := fun past rest o => Answered (endOf policy.maxRetries past e) rest o.stage)
    (fun _ before advance => before.counted.answered advance) (fun now advance => now.step advance)
    split

/-- **What precedes the end**: a fatal failure, or a crash. -/
theorem Told.ended (h : Told policy False told o) {ending : Ending}
    (ended : o.stage = .ended ending) :
    (∃ past e cause, told = past ++ [.failed e, .shown .stopped] ∧
      endOf policy.maxRetries past e = some cause ∧ ending = .finished (.error cause)) ∨
    ∃ detail, ending = .crashed detail ∧ told.getLast? = some .crashed := by
  induction h with
  | start => cases ended
  | @step told marks o o' before advance ih =>
      cases advance with
      | rests =>
          rw [List.append_nil]
          exact ih ended
      | crashes =>
          cases ended
          exact .inr ⟨_, rfl, List.getLast?_concat⟩
      | exhausts stage retryable forbidden =>
          cases ended
          exact .inl ⟨_, _, _, rfl, before.counted.fatal?_eq_some stage retryable forbidden, rfl⟩
      | refuses stage final =>
          cases ended
          exact .inl ⟨_, _, _, rfl, SourceError.fatal?_of_final final _ _, rfl⟩
      | accepts stage => cases stage.symm.trans ended
      | stops leave => exact leave.elim
      | rounds | begins | opens | describes | subscribes | waits => cases ended

/-! ## The next session -/

namespace Supervisor

variable {β τ : Type} {s : Supervisor β τ} {rest : List Mark}

variable (settings : SyncSettings) (subscription : Subscription β τ)

end Supervisor
end HexWorld
