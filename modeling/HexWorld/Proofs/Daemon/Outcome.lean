import HexWorld.Daemon.Lifecycle
import HexWorld.Proofs.Sync.Calls

/-!
# `Proofs.Daemon.Outcome` — how a machine ends is never passed over

A daemon waits for a signal and for the end of its machine at the same time. Whichever it notices
first, it leaves with the end of the machine: after a signal it gives up its call for the end, asks
for the end and makes the call again. As nobody asked before, an end that is noticed first is a
failure, and there is no order of the two in which a failure is lost.

## Contents
- `Ending.Reports`: what is to be told about an end.
- `Watch`: a daemon after its start; `Looked`, what a poll of it can do.
- `Faithful`: nothing was passed over; `Sound`, kept by all that happens.
- `Sound.concludes`: a daemon that has something to notice comes to its end.
- `ends_are_reported`.
-/

namespace HexWorld

variable {β τ : Type} {settings : SyncSettings} {subscription : Subscription β τ}

/-! ## What is to be told -/

namespace Ending

/-- What is to be told about an end: that all is well, why the machine gave up, or with what it
crashed. -/
inductive Reports : Ending → Except ManagerError Unit → Prop where
  | well : Reports (.finished (.ok ())) (.ok ())
  | fatal (cause : FatalError) : Reports (.finished (.error cause)) (.error (.fatal cause))
  | crashed (detail : String) : Reports (.crashed detail)
      (.error (.task s!"task N panicked with message {Text.quoted detail}"))

theorem reports_report (ending : Ending) : ending.Reports ending.report := by
  rcases ending with (cause | _) | detail
  · exact .fatal cause
  · exact .well
  · exact .crashed detail

/-- The end of a machine is bad unless it ended well. -/
theorem report_eq_error_iff {ending : Ending} :
    (∃ e, ending.report = .error e) ↔ ending ≠ .finished (.ok ()) := by
  constructor
  · rintro ⟨e, failed⟩ rfl
    cases failed
  · intro unwell
    have reports := ending.reports_report
    generalize ending.report = report at reports
    cases reports with
    | well => exact absurd rfl unwell
    | fatal | crashed => exact ⟨_, rfl⟩

end Ending

/-! ## A daemon and its end -/

/-- The reason to stop that a signal is, or that waiting for one in vain is. -/
def Stop.ofSignal : Except String Unit → Stop
  | .ok () => .signal
  | .error detail => .signalFailed detail

/-- A daemon that has been started. -/
structure Watch (β τ : Type) extends Tenure β τ where
  /-- What the wait for a signal has come to. -/
  heard : Option (Except String Unit)
  /-- Why it stops, once it has noticed something. -/
  stop : Option Stop
  outcome : Option (Except DaemonError Unit)

/-- What can happen to a daemon. -/
inductive Occurrence (β τ : Type) where
  /-- Something happens to the machine that its owner does not do. -/
  | incident (i : Incident β τ) (own : i.asks = false)
  /-- There is a signal, or waiting for one fails. -/
  | signal (result : Except String Unit)
  /-- The daemon is polled. As long as it waits for two things, it looks at one of them first. -/
  | poll (signalFirst : Bool)

namespace Watch

def start (words : List UInt64) (memory : τ) : Watch β τ :=
  ⟨.start words memory, none, none, none⟩

/-- The daemon after a signal: it has given up the call for the end and asks the machine to end. -/
def onSignal (result : Except String Unit) (w : Watch β τ) : Watch β τ :=
  { w with toTenure := w.toTenure.request, stop := some (.ofSignal result) }

/-- The daemon after an end that it has not asked for. -/
def onEnd (report : Except ManagerError Unit) (t : Tenure β τ) (w : Watch β τ) : Watch β τ :=
  let stop := Stop.supervisor report
  { w with toTenure := t, stop := some stop, outcome := some (stop.outcome (.ok ())) }

/-- The daemon after the end that it has asked for. -/
def onLastEnd (stop : Stop) (report : Except ManagerError Unit) (t : Tenure β τ) (w : Watch β τ) :
    Watch β τ :=
  { w with toTenure := t, outcome := some (stop.outcome report) }

/-- Notices a signal. -/
def hear? (w : Watch β τ) : Option (Watch β τ) :=
  w.heard.map (w.onSignal ·)

/-- Notices the end of the machine. -/
def notice? (w : Watch β τ) : Option (Watch β τ) :=
  match w.toTenure.ask with
  | (some report, t) => some (w.onEnd report t)
  | (none, _) => none

/-- Notices the end that it has asked for. -/
def conclude? (stop : Stop) (w : Watch β τ) : Option (Watch β τ) :=
  match w.toTenure.ask with
  | (some report, t) => some (w.onLastEnd stop report t)
  | (none, _) => none

def poll (signalFirst : Bool) (w : Watch β τ) : Watch β τ :=
  match w.outcome, w.stop with
  | some _, _ => w
  | none, some stop => (w.conclude? stop).getD w
  | none, none =>
    (if signalFirst then w.hear?.or w.notice? else w.notice?.or w.hear?).getD w

variable (settings subscription) in
def step (w : Watch β τ) : Occurrence β τ → Watch β τ
  | .incident i _ => { w with toTenure := w.toTenure.happen settings subscription i }
  | .signal result => { w with heard := w.heard.or (some result) }
  | .poll signalFirst => w.poll signalFirst

variable (settings subscription) in
/-- Where occurrences lead. -/
def run (occurrences : List (Occurrence β τ)) (w : Watch β τ) : Watch β τ :=
  occurrences.foldl (step settings subscription) w

variable {w : Watch β τ}

/-- What a poll of a daemon can do. -/
inductive Looked (w : Watch β τ) : Watch β τ → Prop where
  | finished {outcome} (done : w.outcome = some outcome) : Looked w w
  | idle (open_ : w.outcome = none) (selecting : w.stop = none) (unheard : w.heard = none)
      (pending : w.toTenure.ask.1 = none) : Looked w w
  | signalled {result} (open_ : w.outcome = none) (selecting : w.stop = none)
      (heard : w.heard = some result) : Looked w (w.onSignal result)
  | noticed {report t} (open_ : w.outcome = none) (selecting : w.stop = none)
      (asked : w.toTenure.ask = (some report, t)) : Looked w (w.onEnd report t)
  | stopping {stop} (open_ : w.outcome = none) (stops : w.stop = some stop)
      (pending : w.toTenure.ask.1 = none) : Looked w w
  | concluded {stop report t} (open_ : w.outcome = none) (stops : w.stop = some stop)
      (asked : w.toTenure.ask = (some report, t)) : Looked w (w.onLastEnd stop report t)

/-- **Every poll is one of these**, whatever it looks at first. -/
theorem looked_poll (signalFirst : Bool) (w : Watch β τ) : Looked w (w.poll signalFirst) := by
  cases open_ : w.outcome with
  | some outcome =>
      have rests : w.poll signalFirst = w := by simp [poll, open_]
      rw [rests]
      exact .finished open_
  | none =>
      cases stops : w.stop with
      | some stop =>
          have waits : w.poll signalFirst = (w.conclude? stop).getD w := by
            simp [poll, open_, stops]
          rw [waits, conclude?]
          rcases asked : w.toTenure.ask with ⟨_ | report, t⟩
          · exact .stopping open_ stops (congrArg Prod.fst asked)
          · exact .concluded open_ stops asked
      | none =>
          have selects : w.poll signalFirst =
              (if signalFirst then w.hear?.or w.notice? else w.notice?.or w.hear?).getD w := by
            simp [poll, open_, stops]
          rw [selects, hear?, notice?]
          -- One of the two has come, or both have, or none has.
          rcases asked : w.toTenure.ask with ⟨_ | report, t⟩ <;> cases heard : w.heard
          case none.none =>
            have idle : Looked w w := .idle open_ stops heard (congrArg Prod.fst asked)
            cases signalFirst <;> exact idle
          case none.some => cases signalFirst <;> exact .signalled open_ stops heard
          case some.none => cases signalFirst <;> exact .noticed open_ stops asked
          case some.some =>
            cases signalFirst with
            | false => exact .noticed open_ stops asked
            | true => exact .signalled open_ stops heard

/-! ## What is kept -/

/-- A daemon that has ended so has passed over nothing: its outcome is an error exactly when the
machine did not end well or the signal could not be waited for, and it tells how the machine ended
or why the signal could not be waited for. -/
structure Faithful (ending : Ending) (heard : Option (Except String Unit))
    (outcome : Except DaemonError Unit) : Prop where
  error_iff : (∃ e, outcome = .error e) ↔
    ending ≠ .finished (.ok ()) ∨ ∃ detail, heard = some (.error detail)
  told : (∃ report, ending.Reports report ∧ outcome = report.mapError .supervisor) ∨
    ∃ detail, heard = some (.error detail) ∧ outcome = .error (.signal detail)

/-- An end that is noticed before any signal is a failure, and so is the outcome. -/
theorem faithful_of_bad {ending : Ending} {e : ManagerError} (bad : ending.report = .error e)
    (heard : Option (Except String Unit)) :
    Faithful ending heard ((Stop.supervisor ending.report).outcome (.ok ())) where
  error_iff := by
    refine ⟨fun _ => .inl (Ending.report_eq_error_iff.mp ⟨e, bad⟩), fun _ => ⟨.supervisor e, ?_⟩⟩
    rw [bad]
    rfl
  told := .inl ⟨_, ending.reports_report, rfl⟩

/-- After a signal the end of the machine decides; without one, that it could not be waited for. -/
theorem faithful_of_signal (ending : Ending) (result : Except String Unit) :
    Faithful ending (some result) ((Stop.ofSignal result).outcome ending.report) := by
  cases result with
  | error detail =>
      exact ⟨⟨fun _ => .inr ⟨detail, rfl⟩, fun _ => ⟨_, rfl⟩⟩, .inr ⟨detail, rfl, rfl⟩⟩
  | ok =>
      refine ⟨?_, .inl ⟨_, ending.reports_report, rfl⟩⟩
      rw [← Ending.report_eq_error_iff]
      show (∃ e, ending.report.mapError DaemonError.supervisor = .error e) ↔ _
      cases ending.report with
      | error e => exact ⟨fun _ => .inl ⟨e, rfl⟩, fun _ => ⟨.supervisor e, rfl⟩⟩
      | ok =>
          constructor
          · rintro ⟨e, h⟩
            cases h
          · rintro (⟨e, h⟩ | ⟨detail, h⟩) <;> cases h

/-- A daemon waits for either, or stops after a signal, or has ended. -/
inductive Sound (w : Watch β τ) : Prop where
  | selecting (open_ : w.outcome = none) (selecting : w.stop = none)
      (waiting : w.manager.waiting = true) (ungiven : w.owned.signal.isGiven = false)
      (unwell : w.owned.machine.position ≠ .ended (.finished (.ok ())))
  | stopping {result} (open_ : w.outcome = none) (stops : w.stop = some (.ofSignal result))
      (heard : w.heard = some result) (waiting : w.manager.waiting = true)
      (given : w.owned.signal.isGiven = true)
  | ended {ending outcome} (done : w.outcome = some outcome)
      (ended : w.owned.machine.position = .ended ending)
      (faithful : Faithful ending w.heard outcome)
      (bad : w.heard = none → outcome = (Stop.supervisor ending.report).outcome (.ok ()) ∧
        ∃ e, ending.report = .error e)

namespace Sound

theorem start (words : List UInt64) (memory : τ) : Sound (start words memory : Watch β τ) :=
  .selecting rfl rfl rfl rfl (by rintro ⟨⟩)

theorem incident (h : Sound w) {i : Incident β τ} (own : i.asks = false) :
    Sound { w with toTenure := w.toTenure.happen settings subscription i } := by
  cases h with
  | selecting open_ selecting waiting ungiven unwell =>
      refine .selecting open_ selecting waiting ?_ (Owned.unwell_happen own ungiven unwell)
      show (w.owned.happen settings subscription i).1.signal.isGiven = false
      rw [Owned.signal_happen own]
      exact ungiven
  | stopping open_ stops heard waiting given =>
      exact .stopping open_ stops heard waiting
        (Owned.isGiven_happen settings subscription given i)
  | ended done ended faithful bad =>
      exact .ended done (Owned.position_happen_of_ended ended i) faithful bad

theorem signal (h : Sound w) (result : Except String Unit) :
    Sound { w with heard := w.heard.or (some result) } := by
  cases h with
  | selecting open_ selecting waiting ungiven unwell =>
      exact .selecting open_ selecting waiting ungiven unwell
  | stopping open_ stops heard waiting given =>
      refine .stopping open_ stops ?_ waiting given
      rw [heard]
      rfl
  | ended done ended faithful bad =>
      cases heard : w.heard with
      | some first =>
          rw [heard] at faithful
          refine .ended done ended ?_ ?_
          · exact faithful
          · intro unheard
            cases unheard
      | none =>
          -- The signal comes too late; the outcome is the failure of the machine.
          obtain ⟨rfl, e, failed⟩ := bad heard
          refine .ended done ended (faithful_of_bad failed _) ?_
          intro unheard
          cases unheard

theorem poll (h : Sound w) (signalFirst : Bool) : Sound (w.poll signalFirst) := by
  have looked := looked_poll signalFirst w
  generalize w.poll signalFirst = next at looked
  cases looked with
  | finished | idle | stopping => exact h
  | signalled open_ selecting heard =>
      cases h with
      | selecting _ _ waiting => exact .stopping open_ rfl heard waiting rfl
      | stopping _ stops =>
          rw [selecting] at stops
          cases stops
      | ended done =>
          rw [open_] at done
          cases done
  | noticed open_ selecting asked =>
      cases h with
      | selecting _ _ waiting ungiven unwell =>
          have result := w.toTenure.asked_ask
          rw [asked] at result
          cases result with
          | again told =>
              rw [waiting] at told
              cases told
          | first _ ended =>
              -- Nobody has asked for the end, so it is a failure.
              obtain ⟨e, failed⟩ := Ending.report_eq_error_iff.mpr
                fun well => unwell (well ▸ ended)
              exact .ended rfl ended (faithful_of_bad failed _) fun _ => ⟨rfl, e, failed⟩
      | stopping _ stops =>
          rw [selecting] at stops
          cases stops
      | ended done =>
          rw [open_] at done
          cases done
  | concluded open_ stops asked =>
      cases h with
      | selecting _ selecting =>
          rw [selecting] at stops
          cases stops
      | @stopping result _ stops' heard waiting given =>
          rw [stops'] at stops
          cases stops
          have result := w.toTenure.asked_ask
          rw [asked] at result
          cases result with
          | again told =>
              rw [waiting] at told
              cases told
          | first _ ended =>
              refine .ended rfl ended ?_ ?_
              · show Faithful _ w.heard _
                rw [heard]
                exact faithful_of_signal _ _
              · intro unheard
                have impossible := heard.symm.trans unheard
                cases impossible
      | ended done =>
          rw [open_] at done
          cases done

variable (settings subscription) in
theorem step (h : Sound w) (o : Occurrence β τ) : Sound (w.step settings subscription o) := by
  cases o with
  | incident i own => exact h.incident own
  | signal result => exact h.signal result
  | poll signalFirst => exact h.poll signalFirst

end Sound

variable (settings subscription) in
theorem sound_run (words : List UInt64) (memory : τ) (occurrences : List (Occurrence β τ)) :
    Sound (run settings subscription occurrences (start words memory)) := by
  unfold run
  generalize sound : start words memory = w
  have h : Sound w := sound ▸ Sound.start words memory
  clear sound
  induction occurrences generalizing w with
  | nil => exact h
  | cons o rest ih => exact ih _ (h.step settings subscription o)

/-! ## Getting to the end -/

variable (settings subscription) in
theorem outcome_step_of_done {outcome : Except DaemonError Unit} (done : w.outcome = some outcome)
    (o : Occurrence β τ) : (w.step settings subscription o).outcome = some outcome := by
  cases o with
  | incident | signal => exact done
  | poll signalFirst =>
      show (w.poll signalFirst).outcome = _
      simp [poll, done]

/-- A daemon that stops ends when it is polled after the end of the machine. -/
theorem outcome_poll_of_ended {stop : Stop} {ending : Ending} (stops : w.stop = some stop)
    (ended : w.owned.machine.position = .ended ending) (signalFirst : Bool) :
    (w.poll signalFirst).outcome ≠ none := by
  have answer := Tenure.ask_of_ended ended
  have looked := looked_poll signalFirst w
  generalize w.poll signalFirst = next at looked
  cases looked with
  | finished done =>
      rw [done]
      exact Option.some_ne_none _
  | noticed | concluded => exact Option.some_ne_none _
  | idle _ selecting | signalled _ selecting =>
      rw [stops] at selecting
      cases selecting
  | stopping _ _ pending => exact absurd pending answer

variable (settings subscription) in
/-- **A daemon that has something to notice comes to its end**: it is polled, then the machine is,
and then the daemon once more. -/
theorem Sound.concludes (h : Sound w) (due : w.heard ≠ none ∨ w.ending? ≠ none)
    (first second : Bool) (ready : Option Event) :
    (run settings subscription [.poll first, .incident (.poll true ready) rfl, .poll second]
      w).outcome ≠ none := by
  have noticed : (w.poll first).outcome ≠ none ∨
      (∃ stop, (w.poll first).stop = some stop) ∧
        (w.poll first).owned.signal.isGiven = true := by
    have looked := looked_poll first w
    generalize w.poll first = next at looked
    cases looked with
    | finished done =>
        rw [done]
        exact .inl (Option.some_ne_none _)
    | noticed | concluded => exact .inl (Option.some_ne_none _)
    | signalled => exact .inr ⟨⟨_, rfl⟩, rfl⟩
    | stopping open_ stops =>
        cases h with
        | stopping _ _ _ _ given => exact .inr ⟨⟨_, stops⟩, given⟩
        | selecting _ selecting =>
            rw [selecting] at stops
            cases stops
        | ended done =>
            rw [open_] at done
            cases done
    | idle _ _ unheard pending =>
        have running : w.ending? = none := by
          cases found : w.ending? with
          | none => rfl
          | some ending =>
              exact absurd pending (Tenure.ask_of_ended (Tenure.ending?_eq_some_iff.mp found))
        rcases due with heard | ended
        · exact absurd unheard heard
        · exact absurd running ended
  show ((Watch.step settings subscription (w.poll first) (.incident (.poll true ready) rfl)).poll
    second).outcome ≠ none
  rcases noticed with done | ⟨⟨stop, stops⟩, given⟩
  · obtain ⟨outcome, done⟩ := Option.ne_none_iff_exists'.mp done
    have later := outcome_step_of_done settings subscription done (.incident (.poll true ready) rfl)
    have last := outcome_step_of_done settings subscription later (.poll second)
    exact last ▸ Option.some_ne_none outcome
  · obtain ⟨ending, ended⟩ := Owned.exists_ending_of_given settings subscription given ready
    let next := Watch.step settings subscription (w.poll first) (.incident (.poll true ready) rfl)
    have still : next.stop = some stop := stops
    exact outcome_poll_of_ended still ended second

end Watch

/-! ## Ends -/

/-- **How a machine ends is told once, and is never passed over.**

Whatever happens to a daemon after its start, if it ends, the machine has ended before; its outcome
is an error exactly when the machine did not end well or the signal could not be waited for, and it
tells one of these, as `Ending.Reports` has it. It does end, when it is polled with something to
notice, and once more after the machine has been polled.

Whatever calls for the end are made and given up, they find a machine that has not ended, until one
finds its end and is told of it; every later answer is that all is well, and no later call looks at
the machine. A call that is polled after the end is answered, and after one answer every further
call is answered at once. -/
theorem ends_are_reported (settings : SyncSettings) (subscription : Subscription β τ)
    (words : List UInt64) (memory : τ) :
    (∀ occurrences : List (Occurrence β τ),
      let w := Watch.run settings subscription occurrences (.start words memory)
      (∀ outcome, w.outcome = some outcome → ∃ ending,
        w.owned.machine.position = .ended ending ∧ Watch.Faithful ending w.heard outcome) ∧
      (w.heard ≠ none ∨ w.ending? ≠ none → ∀ first second ready,
        (Watch.run settings subscription
          [.poll first, .incident (.poll true ready) rfl, .poll second] w).outcome ≠ none)) ∧
    ∀ events : List (CallEvent β τ),
      let r := Calls.run settings subscription events (.start words memory)
      ((∃ n, r.2 = List.replicate n (.looked none)) ∨
        ∃ n k ending report, r.1.owned.machine.position = .ended ending ∧ ending.Reports report ∧
          r.2 = List.replicate n (.looked none) ++ .looked (some ending) ::
            .answered report :: List.replicate k (.answered (.ok ()))) ∧
      (r.1.isCalling = true → r.1.ending? ≠ none →
        ∃ report, CallNote.answered report ∈ (r.1.step settings subscription .poll).2) ∧
      ((∃ report, CallNote.answered report ∈ r.2) → r.1.isLast = false →
        (Calls.run settings subscription [.call, .poll] r.1).2 = [.answered (.ok ())]) := by
  refine ⟨fun occurrences => ?_, fun events => ?_⟩
  · intro w
    have sound : Watch.Sound w := Watch.sound_run settings subscription words memory occurrences
    refine ⟨?_, fun due first second ready => sound.concludes settings subscription due _ _ _⟩
    intro outcome done
    cases sound with
    | selecting open_ | stopping open_ =>
        rw [open_] at done
        cases done
    | @ended ending outcome' done' ended faithful =>
        obtain rfl : outcome' = outcome := Option.some.inj (done'.symm.trans done)
        exact ⟨ending, ended, faithful⟩
  · intro r
    have reported : Calls.Reported r.1 r.2 :=
      Calls.reported_run settings subscription words memory events
    refine ⟨?_, fun calling ended => ?_, fun ⟨report, answered⟩ unused => ?_⟩
    · generalize r.2 = log at reported
      cases reported with
      | pending n => exact .inl ⟨n, rfl⟩
      | @told n k ending _ ended =>
          exact .inr ⟨n, k, ending, ending.report, ended, ending.reports_report, rfl⟩
    · obtain ⟨ending, ended⟩ := Option.ne_none_iff_exists'.mp ended
      have polled : r.1.step settings subscription .poll = r.1.poll := if_pos calling
      rw [polled]
      exact Calls.answered_of_ended (Tenure.ending?_eq_some_iff.mp ended)
    · exact Calls.run_call_of_told settings subscription (reported.waiting_eq_false answered) unused

/-- A source that admits nobody. -/
def barred : SourceError := .permissionDenied "not here"

/-- A machine whose source admits nobody, up to its end. -/
def barredIncidents : List { i : Incident Unit Unit // i.asks = false } :=
  [⟨.poll true none, rfl⟩, ⟨.poll false none, rfl⟩,
    ⟨.poll false (some (.connected (.answered (.error barred)))), rfl⟩]

/-- The machine ends by a failure and there is a signal before the daemon looks. It looks at the
signal first, and the failure is its outcome. -/
def signalAndFailure : List (Occurrence Unit Unit) :=
  barredIncidents.map (fun i => .incident i.1 i.2) ++ [.signal (.ok ()), .poll true, .poll true]

/-- One call is given up; the next is answered with the failure, and all others at once. -/
def callsAndFailure : List (CallEvent Unit Unit) :=
  [.call, .poll, .cancel] ++ barredIncidents.map (fun i => .incident i.1 i.2) ++
    [.call, .poll, .call, .poll]

theorem ends_are_reported_barred :
    let w := Watch.run plainSettings noSubscription signalAndFailure (.start [] ())
    let r := Calls.run plainSettings noSubscription callsAndFailure (.start [] ())
    w.outcome = some (.error (.supervisor (.fatal (.nonRetryable barred)))) ∧
    (∃ ending, w.owned.machine.position = .ended ending ∧
      Watch.Faithful ending w.heard (.error (.supervisor (.fatal (.nonRetryable barred))))) ∧
    (∀ first second ready, (Watch.run plainSettings noSubscription
      [.poll first, .incident (.poll true ready) rfl, .poll second] w).outcome ≠ none) ∧
    r.2 = [.looked none, .looked (some (.finished (.error (.nonRetryable barred)))),
      .answered (.error (.fatal (.nonRetryable barred))), .answered (.ok ())] ∧
    (Calls.run plainSettings noSubscription [.call, .poll] r.1).2 = [.answered (.ok ())] := by
  obtain ⟨daemon, calls⟩ := ends_are_reported plainSettings noSubscription [] ()
  obtain ⟨faithful, concludes⟩ := daemon signalAndFailure
  obtain ⟨-, -, again⟩ := calls callsAndFailure
  have notes : (Calls.run plainSettings noSubscription callsAndFailure (.start [] ())).2 =
      [.looked none, .looked (some (.finished (.error (.nonRetryable barred)))),
        .answered (.error (.fatal (.nonRetryable barred))), .answered (.ok ())] := rfl
  refine ⟨rfl, faithful _ rfl, concludes (.inl (Option.some_ne_none _)), notes, again ?_ rfl⟩
  exact ⟨.ok (), by rw [notes]; simp⟩

end HexWorld
