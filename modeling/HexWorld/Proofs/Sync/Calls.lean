import HexWorld.Proofs.Sync.Stop

/-!
# `Proofs.Sync.Calls` — the end of a machine is told once

The owner of a machine learns of its end by a call that waits for it. The call may be given up at
any time and made again; the end is told to the first call that is not given up, and afterwards
there is nothing to wait for, so no later call looks at the machine.

A machine that nobody asked to stop may fail or crash, but it does not end well. An owner that
learns of an end without having asked for it learns of a failure.

## Contents
- `Supervisor.Step.unwell`, `Owned.unwell_happen`: a machine that nobody asked to stop.
- `Owned.exists_ending_of_given`: a machine that was asked has ended after one more poll.
- `Tenure`, `Tenure.ask`: a machine and its manager; one poll of a call. `Asked`: its three results.
- `Calls`: calls that are made, polled and given up; `Reported`, what is noted about them;
  `reported_run`, `answered_of_ended`, `run_call_of_told`.
-/

namespace HexWorld

variable {β τ : Type} {settings : SyncSettings} {subscription : Subscription β τ}

/-! ## Ends that nobody asked for -/

/-- A machine that is not told to stop may fail or crash, but it does not end well. -/
theorem Supervisor.Step.unwell {s : Supervisor β τ} {ready : Option Event}
    {r : Supervisor β τ × List Effect} (step : Step settings subscription s false ready r)
    (unwell : s.position ≠ .ended (.finished (.ok ()))) :
    r.1.position ≠ .ended (.finished (.ok ())) := by
  intro well
  cases step with
  | rest | late => exact unwell well
  | began | woken | connecting | connected | crashed | listed | bootstrapped | subscribed
  | accepted => cases well
  | broken breaks =>
      rename_i e failure
      rcases fail_cases settings.policy failure s with ⟨-, eq⟩ | ⟨-, -, eq⟩ | ⟨-, -, eq⟩
      all_goals
        rw [eq] at well
        cases well

namespace Owned

variable {o : Owned β τ} {i : Incident β τ}

/-- Only the owner gives the signal. -/
theorem signal_happen (own : i.asks = false) :
    (o.happen settings subscription i).1.signal = o.signal := by
  cases i with
  | request | abandon => cases own
  | poll | register | deregister | remember => rfl

theorem unwell_happen (own : i.asks = false) (ungiven : o.signal.isGiven = false)
    (unwell : o.machine.position ≠ .ended (.finished (.ok ()))) :
    (o.happen settings subscription i).1.machine.position ≠ .ended (.finished (.ok ())) := by
  cases i with
  | request | abandon => cases own
  | register | deregister | remember => exact unwell
  | poll afresh ready =>
      have unseen : o.sees afresh = false := by
        rw [sees, ungiven]
        exact Bool.false_and _
      have step : Supervisor.Step settings subscription o.machine false ready
          (o.machine.poll settings subscription false ready) := Supervisor.step_poll false ready
      show (o.machine.poll settings subscription (o.sees afresh) ready).1.position ≠ _
      rw [unseen]
      exact step.unwell unwell

theorem position_happen_of_ended {ending : Ending} (ended : o.machine.position = .ended ending)
    (i : Incident β τ) :
    (o.happen settings subscription i).1.machine.position = .ended ending := by
  cases i with
  | request | abandon | register | deregister | remember => exact ended
  | poll afresh ready =>
      show (o.machine.poll settings subscription (o.sees afresh) ready).1.position = _
      rw [Supervisor.poll_of_ended ended]
      exact ended

variable (settings subscription) in
/-- A machine that is polled afresh after the signal was given has ended. -/
theorem exists_ending_of_given (given : o.signal.isGiven = true) (ready : Option Event) :
    ∃ ending,
      (o.happen settings subscription (.poll true ready)).1.machine.position = .ended ending := by
  cases running : o.machine.position.ending? with
  | some ending =>
      have ended : o.machine.position = .ended ending := by
        unfold Position.ending? at running
        split at running
        · rename_i e position
          rw [position, Option.some.inj running]
        · cases running
      exact ⟨ending, position_happen_of_ended ended _⟩
  | none =>
      have seen : o.sees true = true := by
        rw [sees, given]
        rfl
      obtain ⟨ended, -⟩ := ended_of_seen settings subscription seen running ready []
      exact ⟨_, ended.position⟩

end Owned

/-! ## Asking for the end -/

/-- A machine with its owner, who holds the manager. -/
structure Tenure (β τ : Type) where
  owned : Owned β τ
  manager : Manager

namespace Tenure

def start (words : List UInt64) (memory : τ) : Tenure β τ :=
  ⟨.start words memory, .start⟩

/-- How the machine has ended, if it has. -/
def ending? (t : Tenure β τ) : Option Ending :=
  t.owned.machine.position.ending?

variable (settings subscription) in
/-- Something happens to the machine. -/
def happen (i : Incident β τ) (t : Tenure β τ) : Tenure β τ :=
  { t with owned := (t.owned.happen settings subscription i).1 }

/-- The machine is asked to end. -/
def request (t : Tenure β τ) : Tenure β τ :=
  { t with owned := { t.owned with signal := { t.owned.signal with requested := true } } }

/-- One poll of a call that waits for the end. -/
def ask (t : Tenure β τ) : Option (Except ManagerError Unit) × Tenure β τ :=
  let (report, manager) := t.manager.stopped t.ending?
  (report, { t with manager })

/-- What one poll of a call can come to. -/
inductive Asked (t : Tenure β τ) : Option (Except ManagerError Unit) × Tenure β τ → Prop where
  /-- The end has been told already. -/
  | again (told : t.manager.waiting = false) : Asked t (some (.ok ()), t)
  | early (waiting : t.manager.waiting = true) (running : t.ending? = none) : Asked t (none, t)
  | first {ending} (waiting : t.manager.waiting = true)
      (ended : t.owned.machine.position = .ended ending) :
      Asked t (some ending.report, { t with manager := ⟨false⟩ })

variable {t : Tenure β τ}

theorem ending?_eq_some_iff {ending : Ending} :
    t.ending? = some ending ↔ t.owned.machine.position = .ended ending := by
  unfold ending? Position.ending?
  cases t.owned.machine.position <;> simp

theorem asked_ask (t : Tenure β τ) : Asked t t.ask := by
  unfold ask Manager.stopped
  cases waiting : t.manager.waiting with
  | false => exact .again waiting
  | true =>
      cases found : t.ending? with
      | none => exact .early waiting found
      | some ending => exact .first waiting (ending?_eq_some_iff.mp found)

theorem ask_of_ended {ending : Ending} (ended : t.owned.machine.position = .ended ending) :
    t.ask.1 ≠ none := by
  have asked := t.asked_ask
  generalize t.ask = result at asked
  cases asked with
  | again | first => exact Option.some_ne_none _
  | early _ running =>
      rw [ending?_eq_some_iff.mpr ended] at running
      cases running

end Tenure

/-! ## Calls -/

/-- What is noted about calls: what one finds when it looks at the machine, and its answer. -/
inductive CallNote where
  | looked (found : Option Ending)
  | answered (report : Except ManagerError Unit)

/-- The calls that the owner makes, one at a time. -/
structure Calls (β τ : Type) extends Tenure β τ where
  /-- A call waits. -/
  isCalling : Bool
  /-- The owner has asked for the end and makes no further call. -/
  isLast : Bool

/-- What can happen to calls. -/
inductive CallEvent (β τ : Type) where
  /-- Something happens to the machine that its owner does not do. -/
  | incident (i : Incident β τ) (own : i.asks = false)
  | call
  | poll
  /-- The call that waits is given up. -/
  | cancel
  /-- The end is asked for, and the last call is made. -/
  | shutdown

namespace Calls

def start (words : List UInt64) (memory : τ) : Calls β τ :=
  ⟨.start words memory, false, false⟩

/-- A poll of the call that waits. It looks at the machine as long as the end has not been told. -/
def poll (c : Calls β τ) : Calls β τ × List CallNote :=
  let looks := if c.manager.waiting then [CallNote.looked c.ending?] else []
  match c.toTenure.ask with
  | (some report, t) => ({ c with toTenure := t, isCalling := false }, looks ++ [.answered report])
  | (none, t) => ({ c with toTenure := t }, looks)

variable (settings subscription) in
def step (c : Calls β τ) : CallEvent β τ → Calls β τ × List CallNote
  | .incident i _ => ({ c with toTenure := c.toTenure.happen settings subscription i }, [])
  | .call => if c.isLast then (c, []) else ({ c with isCalling := true }, [])
  | .poll => if c.isCalling then c.poll else (c, [])
  | .cancel => ({ c with isCalling := false }, [])
  | .shutdown =>
    if c.isLast then (c, [])
    else ({ c with toTenure := c.toTenure.request, isCalling := true, isLast := true }, [])

variable (settings subscription) in
/-- Where events lead, and what is noted. -/
def run : List (CallEvent β τ) → Calls β τ → Calls β τ × List CallNote
  | [], c => (c, [])
  | i :: rest, c =>
    let (c, notes) := c.step settings subscription i
    let (c, log) := run rest c
    (c, notes ++ log)

/-- What has been noted: looks at a machine that has not ended, until one finds its end; that end is
the answer, and every later answer is that all is well, without a look. -/
inductive Reported (c : Calls β τ) : List CallNote → Prop where
  | pending (n : Nat) (waiting : c.manager.waiting = true) :
      Reported c (List.replicate n (.looked none))
  | told (n k : Nat) {ending : Ending} (told : c.manager.waiting = false)
      (ended : c.owned.machine.position = .ended ending) :
      Reported c (List.replicate n (.looked none) ++
        .looked (some ending) :: .answered ending.report :: List.replicate k (.answered (.ok ())))

variable {c : Calls β τ} {log : List CallNote}

/-- Whatever leaves the manager alone and does not undo the end. -/
theorem Reported.keep {d : Calls β τ} (h : Reported c log) (manager : d.manager = c.manager)
    (ended : ∀ ending, c.owned.machine.position = .ended ending →
      d.owned.machine.position = .ended ending) : Reported d log := by
  cases h with
  | pending n waiting => exact .pending n (manager ▸ waiting)
  | told n k told end_of => exact .told n k (manager ▸ told) (ended _ end_of)

theorem Reported.poll (h : Reported c log) : Reported c.poll.1 (log ++ c.poll.2) := by
  have asked := c.toTenure.asked_ask
  unfold Calls.poll
  generalize c.toTenure.ask = result at asked
  cases h with
  | pending n waiting =>
      cases asked with
      | again told =>
          rw [waiting] at told
          cases told
      | early _ running =>
          simp only [waiting, if_true, running]
          rw [← List.replicate_succ']
          exact .pending (n + 1) waiting
      | first _ ended =>
          simp only [waiting, if_true, Tenure.ending?_eq_some_iff.mpr ended]
          exact .told n 0 rfl ended
  | told n k told ended =>
      cases asked with
      | again =>
          simp only [told, Bool.false_eq_true, if_false, List.nil_append]
          rw [List.append_assoc, List.cons_append, List.cons_append, ← List.replicate_succ']
          exact .told n (k + 1) told ended
      | early waiting | first waiting =>
          rw [told] at waiting
          cases waiting

variable (settings subscription) in
theorem Reported.step (h : Reported c log) (i : CallEvent β τ) :
    Reported (c.step settings subscription i).1 (log ++ (c.step settings subscription i).2) := by
  have silent {d : Calls β τ} (manager : d.manager = c.manager)
      (ended : ∀ ending, c.owned.machine.position = .ended ending →
        d.owned.machine.position = .ended ending) : Reported d (log ++ []) := by
    rw [List.append_nil]
    exact h.keep manager ended
  cases i with
  | incident i => exact silent rfl fun _ ended => Owned.position_happen_of_ended ended i
  | cancel => exact silent rfl fun _ ended => ended
  | call | shutdown =>
      unfold Calls.step
      by_cases last : c.isLast
      · simp only [last, if_true]
        exact silent rfl fun _ ended => ended
      · simp only [last, Bool.false_eq_true, if_false]
        exact silent rfl fun _ ended => ended
  | poll =>
      unfold Calls.step
      by_cases calling : c.isCalling
      · simp only [calling, if_true]
        exact h.poll
      · simp only [calling, Bool.false_eq_true, if_false]
        exact silent rfl fun _ ended => ended

variable (settings subscription) in
theorem reported_run (words : List UInt64) (memory : τ) (events : List (CallEvent β τ)) :
    let r := run settings subscription events (start words memory)
    Reported r.1 r.2 := by
  suffices h : ∀ (c : Calls β τ) (log : List CallNote), Reported c log →
      Reported (run settings subscription events c).1
        (log ++ (run settings subscription events c).2) from
    h _ [] (.pending 0 rfl)
  intro c log h
  induction events generalizing c log with
  | nil =>
      show Reported c (log ++ [])
      rw [List.append_nil]
      exact h
  | cons i rest ih =>
      show Reported _ (log ++ ((c.step settings subscription i).2 ++ _))
      rw [← List.append_assoc]
      exact ih _ _ (h.step settings subscription i)

/-- A call that is polled after the end is answered. -/
theorem answered_of_ended {ending : Ending} (ended : c.owned.machine.position = .ended ending) :
    ∃ report, CallNote.answered report ∈ c.poll.2 := by
  have answer := Tenure.ask_of_ended ended
  unfold poll
  rcases asked : c.toTenure.ask with ⟨_ | report, t⟩
  · exact absurd (congrArg Prod.fst asked) answer
  · exact ⟨report, List.mem_append_right _ List.mem_cons_self⟩

/-- Once a call has been answered, the end has been told. -/
theorem Reported.waiting_eq_false (h : Reported c log) {report : Except ManagerError Unit}
    (answered : .answered report ∈ log) : c.manager.waiting = false := by
  cases h with
  | told _ _ told => exact told
  | pending n =>
      have impossible := List.eq_of_mem_replicate answered
      cases impossible

variable (settings subscription) in
/-- A further call is answered by its first poll, without a look. -/
theorem run_call_of_told (told : c.manager.waiting = false) (unused : c.isLast = false) :
    (run settings subscription [.call, .poll] c).2 = [.answered (.ok ())] := by
  simp [run, step, poll, unused, told, Tenure.ask, Manager.stopped]

end Calls

end HexWorld
