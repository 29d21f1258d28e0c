import HexWorld.Proofs.Relay.Observation
import HexWorld.Proofs.Sync.Chronicle

/-!
# `Proofs.Relay.Order` — when what a client sees goes back in time

Relayed snapshots come in the order in which they were published, and so does what is read from the
store. But the two ways are not in step: a connection that reads the store to answer a selection may
still have older snapshots in its receiver, and it sends them afterwards. This module says exactly
when that happens. Catching up after a loss is the same in principle, only that the receiver has
been emptied right before.

## Contents
- `InOrder`, `Overtakes`: nothing goes back; the store is read past an older snapshot.
- `Written`: an observation follows a run of the writer.
- `Ordered`, the invariant of a connection that never overtakes, and `ordered_happens`.
- `rounds` and `not_inOrder_of_overtakes`: the way back in time after overtaking.
- `shown_inOrder_unless_overtakes`, and `shown_not_inOrder`: a run that goes back.
-/

namespace HexWorld

/-- No snapshot comes before an earlier one of the list. -/
def InOrder (snapshots : List Snapshot) : Prop :=
  snapshots.Pairwise fun a b => ¬b.Before a

instance (snapshots : List Snapshot) : Decidable (InOrder snapshots) :=
  inferInstanceAs (Decidable (List.Pairwise _ _))

theorem Snapshot.not_before_of_getLast? {past : List Snapshot} {s a : Snapshot}
    (sorted : past.Pairwise Snapshot.Before) (last : past.getLast? = some s) (ha : a ∈ past) :
    ¬s.Before a := by
  intro before
  rcases rel_or_eq_of_getLast? sorted last ha with earlier | rfl
  · exact Before.irrefl s (before.trans earlier)
  · exact Before.irrefl a before

namespace Observation

variable {β τ : Type} {settings : SyncSettings} {subscription : Subscription β τ} {capacity : Nat}
  {words : List UInt64} {memory : τ} {o o' : Observation β τ}

/-! ## The writer's side -/

/-- The observation follows a run of the writer, and the store holds what was stored last. -/
structure Written (settings : SyncSettings) (subscription : Subscription β τ) (words : List UInt64)
    (memory : τ) (o : Observation β τ) : Prop where
  run : ∃ moves, Supervisor.run settings subscription moves (.start words memory) =
    (o.writer, o.effects)
  published : o.published = (stored o.done).getLast?

theorem written_start (words : List UInt64) (memory : τ) :
    Written settings subscription words memory (start words memory) :=
  ⟨⟨[], rfl⟩, rfl⟩

theorem effects_done {e : Effect} {rest : List Effect} (next : o.undone = e :: rest) :
    o.done ++ [e] ++ rest = o.effects := by
  rw [effects, next, List.append_assoc]
  rfl

theorem written_happens (happens : Happens settings subscription capacity o o')
    (h : Written settings subscription words memory o) :
    Written settings subscription words memory o' := by
  obtain ⟨moves, run⟩ := h.run
  cases happens with
  | rests | connects | takes | reports | hears | reacts => exact ⟨⟨moves, run⟩, h.published⟩
  | @decides move r decided idle =>
      refine ⟨⟨moves ++ [move], ?_⟩, h.published⟩
      rw [Supervisor.run_append, run, Supervisor.run_cons, decided, effects, idle, List.append_nil]
      show (r.1, o.done ++ (r.2 ++ [])) = (r.1, o.done ++ r.2)
      rw [List.append_nil]
  | @works e rest next hidden =>
      refine ⟨⟨moves, ?_⟩, ?_⟩
      · rw [run, ← effects_done next]
        rfl
      · rw [stored_concat_of_none (stored?_of_isPrivate hidden)]
        exact h.published
  | stores next =>
      refine ⟨⟨moves, ?_⟩, ?_⟩
      · rw [run, ← effects_done next]
        rfl
      · rw [stored_append]
        exact List.getLast?_concat.symm
  | relays next =>
      refine ⟨⟨moves, ?_⟩, ?_⟩
      · rw [run, ← effects_done next]
        rfl
      · show o.published = (stored (o.done ++ _)).getLast?
        rw [stored_concat_of_none rfl]
        exact h.published

/-- What has been stored is in order while session numbers last. -/
theorem Written.sorted (h : Written settings subscription words memory o)
    (fits : begun o.effects < UInt64.size) : (stored o.done).Pairwise Snapshot.Before := by
  obtain ⟨moves, run⟩ := h.run
  have chronicle := Supervisor.chronicle_run settings subscription words memory moves
  rw [run] at chronicle
  have ordered := (chronicle fits).ordered
  rw [effects, stored_append] at ordered
  exact (List.pairwise_append.mp ordered).1

/-- The writer goes on with what it has decided. -/
theorem effects_happens (happens : Happens settings subscription capacity o o') :
    ∃ new, o'.effects = o.effects ++ new := by
  cases happens with
  | rests | connects | takes | reports | hears | reacts => exact ⟨[], (List.append_nil _).symm⟩
  | @decides move r decided idle =>
      refine ⟨r.2, ?_⟩
      show o.done ++ r.2 = o.done ++ o.undone ++ r.2
      rw [idle, List.append_nil]
  | works next | stores next | relays next =>
      refine ⟨[], ?_⟩
      rw [List.append_nil]
      exact effects_done next

/-- So session numbers last along a run if they last at its end. -/
theorem begun_le_after (actions : List (Action β τ)) :
    begun o.effects ≤ begun (after settings subscription capacity actions o).effects := by
  refine after_induction (P := fun o' => begun o.effects ≤ begun o'.effects) (Nat.le_refl _) ?_
    actions
  intro a b happens le
  obtain ⟨new, grown⟩ := effects_happens happens
  rw [grown, begun_append]
  omega

/-! ## The connection's side -/

/-- The next step sends entities that it reads from the store, while the receiver still holds an
older snapshot and will yield it. -/
def Overtakes (o o' : Observation β τ) : Prop :=
  o.wake.isNone = true ∧ o.client.receiver.missed = 0 ∧
    ∃ s ∈ o.published, shown o'.log = shown o.log ++ [s] ∧
      ∃ p ∈ o.client.receiver.pending, p.Before s

instance (o o' : Observation β τ) : Decidable (o.Overtakes o') :=
  inferInstanceAs (Decidable (_ ∧ _ ∧ _))

/-- What the connection will show of its line: after a loss, the receiver is passed over. -/
def ahead (o : Observation β τ) : List Snapshot :=
  if o.client.receiver.missed = 0 ∧ o.wake.any Wake.isLagged = false then o.line
  else (o.wake.bind Wake.snapshot?).toList

/-- The connection has shown what was stored, in its order, and is about to go on in this order. -/
structure Ordered (o : Observation β τ) : Prop where
  line_stored : ∀ s ∈ o.line, s ∈ stored o.done
  shown_stored : ∀ s ∈ shown o.log, s ∈ stored o.done
  line_inOrder : InOrder o.line
  shown_inOrder : InOrder (shown o.log)
  ahead : ∀ a ∈ shown o.log, ∀ s ∈ o.ahead, ¬s.Before a

theorem ordered_start (words : List UInt64) (memory : τ) :
    Ordered (start words memory : Observation β τ) where
  line_stored _ h := by cases h
  shown_stored _ h := by cases h
  line_inOrder := .nil
  shown_inOrder := .nil
  ahead _ h := by cases h

theorem ahead_subset_line : o.ahead ⊆ o.line := by
  unfold ahead
  split
  · exact List.Subset.refl _
  · exact List.subset_append_left _ _

/-- A step that leaves the line as it is, and puts nothing ahead, keeps the order. -/
theorem Ordered.of_kept (h : Ordered o) (line : o'.line = o.line) (ahead : o'.ahead ⊆ o.ahead)
    (log : o'.log = o.log) (done : stored o'.done = stored o.done) : Ordered o' where
  line_stored s hs := by
    rw [done]
    exact h.line_stored s (line ▸ hs)
  shown_stored s hs := by
    rw [done]
    exact h.shown_stored s (log ▸ hs)
  line_inOrder := line ▸ h.line_inOrder
  shown_inOrder := log ▸ h.shown_inOrder
  ahead a ha s hs := h.ahead a (log ▸ ha) s (ahead hs)

theorem mem_ahead_receiving {s a : Snapshot} (ha : a ∈ (o.receiving capacity s).ahead) :
    a ∈ o.ahead ∨ a = s := by
  unfold ahead line receiving at ha
  unfold ahead line
  simp only at ha
  rcases Receiver.push_cases capacity s o.client.receiver with pushed | pushed <;>
    rw [pushed] at ha
  · by_cases complete : o.client.receiver.missed = 0 ∧ o.wake.any Wake.isLagged = false
    · rw [if_pos complete, ← List.append_assoc] at ha
      rw [if_pos complete]
      exact (List.mem_append.mp ha).imp_right List.mem_singleton.mp
    · -- After a loss, what comes in is passed over as well.
      rw [if_neg complete] at ha
      rw [if_neg complete]
      exact .inl ha
  · -- With the loss, the receiver has become something to pass over.
    rw [if_neg fun complete => Nat.succ_ne_zero _ complete.1] at ha
    refine .inl ?_
    split
    · exact List.mem_append_left _ ha
    · exact ha

section Answered

variable {w : Wake} {r : Client × Option Outbound}

/-- A wake that is handled leaves nothing ahead that was not ahead before, in the receiver. -/
theorem of_mem_ahead_answered (coherent : Coherent o)
    (cause : o.wake = some w ∨ o.wake = none ∧ w.isProgress = true)
    (reaction : Client.Reaction o.published o.client w r) :
    ∀ s ∈ (o.answered w r).ahead,
      s ∈ o.ahead ∧ s ∈ o.client.receiver.pending ∧ o.client.receiver.missed = 0 := by
  intro s hs
  have waiting : s ∈ r.1.receiver.pending := ahead_subset_line hs
  rcases reaction.receiver with same | skipped
  · have complete : r.1.receiver.missed = 0 := by
      refine Decidable.byContradiction fun lossy => ?_
      unfold ahead at hs
      rw [if_neg fun complete => lossy complete.1] at hs
      cases hs
    have lasting : o.wake.any Wake.isLagged = false := by
      rcases cause with held | ⟨free, -⟩
      · rw [held]
        refine Bool.eq_false_iff.mpr fun lagged => ?_
        -- A loss empties the receiver, but something waits in it.
        rw [reaction.receiver_of_isLagged (coherent.held w held) lagged] at waiting
        cases waiting
      · rw [free]
        rfl
    rw [same] at waiting complete
    refine ⟨?_, waiting, complete⟩
    unfold ahead
    rw [if_pos ⟨complete, lasting⟩]
    exact List.mem_append_right _ waiting
  · rw [skipped] at waiting
    cases waiting

/-- Sending no entities keeps the order. -/
theorem Ordered.of_isPlain (h : Ordered o) (coherent : Coherent o)
    (cause : o.wake = some w ∨ o.wake = none ∧ w.isProgress = true)
    (reaction : Client.Reaction o.published o.client w r) (plain : Client.IsPlain r.2) :
    Ordered (o.answered w r) where
  line_stored s hs := h.line_stored s ((line_answered_sublist reaction).subset hs)
  shown_stored s hs := by
    rw [shown_answered_of_isPlain plain] at hs
    exact h.shown_stored s hs
  line_inOrder := List.Pairwise.sublist (line_answered_sublist reaction) h.line_inOrder
  shown_inOrder := by
    rw [shown_answered_of_isPlain plain]
    exact h.shown_inOrder
  ahead a ha s hs := by
    rw [shown_answered_of_isPlain plain] at ha
    exact h.ahead a ha s (of_mem_ahead_answered coherent cause reaction s hs).1

/-- Sending the entities of a stored snapshot keeps the order if they come neither too late nor too
early. -/
theorem Ordered.of_shown (h : Ordered o) (coherent : Coherent o)
    (cause : o.wake = some w ∨ o.wake = none ∧ w.isProgress = true)
    (reaction : Client.Reaction o.published o.client w r) {s : Snapshot}
    (sent : shown (o.answered w r).log = shown o.log ++ [s]) (past : s ∈ stored o.done)
    (late : ∀ a ∈ shown o.log, ¬s.Before a)
    (early : ∀ p ∈ (o.answered w r).ahead, ¬p.Before s) : Ordered (o.answered w r) where
  line_stored a ha := h.line_stored a ((line_answered_sublist reaction).subset ha)
  shown_stored := by
    rw [sent]
    exact forall_mem_concat h.shown_stored past
  line_inOrder := List.Pairwise.sublist (line_answered_sublist reaction) h.line_inOrder
  shown_inOrder := by
    rw [sent]
    exact pairwise_concat h.shown_inOrder late
  ahead := by
    rw [sent]
    refine forall_mem_concat (fun a ha p hp => ?_) early
    exact h.ahead a ha p (of_mem_ahead_answered coherent cause reaction p hp).1

theorem ordered_answered (h : Ordered o) (coherent : Coherent o)
    (written : Written settings subscription words memory o)
    (sorted : (stored o.done).Pairwise Snapshot.Before)
    (cause : o.wake = some w ∨ o.wake = none ∧ w.isProgress = true)
    (reaction : Client.Reaction o.published o.client w r)
    (fair : ¬o.Overtakes (o.answered w r)) : Ordered (o.answered w r) := by
  rcases reaction.sends with plain |
    ⟨s, room, view, -, rfl, ⟨rfl, -⟩ | ⟨progress, stage, latest, -⟩⟩
  · exact h.of_isPlain coherent cause reaction plain
  · -- The snapshot comes from the line, in front of what the receiver holds.
    have line := line_of_cause cause
    have next : s ∈ o.ahead := by
      unfold ahead
      split
      · rw [line]
        exact List.mem_append_left _ List.mem_cons_self
      · rcases cause with held | ⟨-, progress⟩
        · rw [held]
          exact List.mem_cons_self
        · cases progress
    refine h.of_shown coherent cause reaction (shown_answered_of_view rfl) ?_ ?_ ?_
    · exact h.line_stored s (ahead_subset_line next)
    · exact fun a ha => h.ahead a ha s next
    · intro p hp
      have waiting := (of_mem_ahead_answered coherent cause reaction p hp).2.1
      have ordered := h.line_inOrder
      rw [line] at ordered
      exact (List.pairwise_cons.mp ordered).1 p waiting
  · -- The snapshot is the newest of all that have been stored.
    have bare := Wake.snapshot?_eq_none (.inr progress)
    have source : w.source o.published = some s := by
      rw [Wake.source, bare.1, latest]
      rfl
    have newest : (stored o.done).getLast? = some s := written.published ▸ latest
    refine h.of_shown coherent cause reaction (shown_answered_of_view source)
      (List.mem_of_getLast? newest) ?_ ?_
    · exact fun a ha => Snapshot.not_before_of_getLast? sorted newest (h.shown_stored a ha)
    · intro p hp early
      obtain ⟨-, waiting, complete⟩ := of_mem_ahead_answered coherent cause reaction p hp
      refine fair ⟨?_, complete, s, latest, shown_answered_of_view source, p, waiting, early⟩
      rcases cause with held | ⟨free, -⟩
      · exact absurd (coherent.held w held) stage
      · rw [free]
        rfl

end Answered

/-- A snapshot is relayed while it is the newest one, so it may go to the end of the line. -/
theorem ordered_relays (h : Ordered o) (coherent : Coherent o)
    (written : Written settings subscription words memory o) {s : Snapshot} {report : Report}
    {rest : List Effect}
    (sorted : (stored (o.done ++ [.notify s report])).Pairwise Snapshot.Before)
    (next : o.undone = .notify s report :: rest) :
    Ordered (receiving capacity s
      { o with done := o.done ++ [.notify s report], undone := rest }) := by
  have same : stored (o.done ++ [.notify s report]) = stored o.done := stored_concat_of_none rfl _
  have pending : Pending o.published o.writer.hub.current (.notify s report :: rest) :=
    next ▸ coherent.pending
  have newest : (stored o.done).getLast? = some s := written.published ▸ pending.relays.1
  rw [same] at sorted
  have behind (a : Snapshot) (ha : a ∈ stored o.done) : ¬s.Before a :=
    Snapshot.not_before_of_getLast? sorted newest ha
  have line : (o.receiving capacity s).line.Sublist (o.line ++ [s]) := line_receiving_sublist s
  refine ⟨?_, ?_, ?_, h.shown_inOrder, ?_⟩
  · intro a ha
    show a ∈ stored (o.done ++ [.notify s report])
    rw [same]
    exact forall_mem_concat h.line_stored (List.mem_of_getLast? newest) a (line.subset ha)
  · intro a ha
    show a ∈ stored (o.done ++ [.notify s report])
    rw [same]
    exact h.shown_stored a ha
  · exact List.Pairwise.sublist line
      (pairwise_concat h.line_inOrder fun a ha => behind a (h.line_stored a ha))
  · intro a ha p hp
    rcases mem_ahead_receiving (o := o) hp with hp | rfl
    · exact h.ahead a ha p hp
    · exact behind a (h.shown_stored a ha)

/-- **The order is kept** by every step that does not overtake. -/
theorem ordered_happens (happens : Happens settings subscription capacity o o')
    (coherent : Coherent o) (written : Written settings subscription words memory o)
    (sorted : (stored o'.done).Pairwise Snapshot.Before) (fair : ¬o.Overtakes o') (h : Ordered o) :
    Ordered o' := by
  cases happens with
  | rests => exact h
  | decides => exact h.of_kept rfl (List.Subset.refl _) rfl rfl
  | works next hidden =>
      exact h.of_kept rfl (List.Subset.refl _) rfl
        (stored_concat_of_none (stored?_of_isPrivate hidden) _)
  | @stores s rest next =>
      have more (a : Snapshot) (ha : a ∈ stored o.done) : a ∈ stored (o.done ++ [.store s]) := by
        rw [stored_append]
        exact List.mem_append_left _ ha
      exact ⟨fun a ha => more a (h.line_stored a ha), fun a ha => more a (h.shown_stored a ha),
        h.line_inOrder, h.shown_inOrder, h.ahead⟩
  | relays next => exact ordered_relays h coherent written sorted next
  | connects =>
      refine ⟨?_, ?_, .nil, .nil, ?_⟩
      · intro s hs
        cases hs
      · intro s hs
        cases hs
      · intro a ha
        cases ha
  | takes stage free complete waiting =>
      have same_line := line_taking free waiting
      refine h.of_kept same_line (fun a ha => ?_) rfl rfl
      unfold ahead
      rw [if_pos ⟨complete, by rw [free]; rfl⟩, ← same_line]
      exact ahead_subset_line ha
  | reports stage free lossy =>
      -- From here on the receiver is passed over, so nothing is ahead.
      refine h.of_kept ?_ (fun a ha => ?_) rfl rfl
      · rw [line_of_free free]
        rfl
      · unfold ahead at ha
        rw [if_neg fun complete => Bool.noConfusion complete.2] at ha
        cases ha
  | @hears w stage free request =>
      have same_line := line_hearing free request
      refine h.of_kept same_line (fun a ha => ?_) rfl rfl
      by_cases complete : o.client.receiver.missed = 0
      · unfold ahead
        rw [if_pos ⟨complete, by rw [free]; rfl⟩, ← same_line]
        exact ahead_subset_line ha
      · unfold ahead at ha
        rw [if_neg fun all => complete all.1] at ha
        have bare : a ∈ w.snapshot?.toList := ha
        rw [(Wake.snapshot?_eq_none (.inl request)).1] at bare
        cases bare
  | reacts cause reaction => exact ordered_answered h coherent written sorted cause reaction fair

/-- The order is kept along a run that does not overtake. -/
theorem ordered_after (actions : List (Action β τ)) (coherent : Coherent o)
    (written : Written settings subscription words memory o)
    (fits : begun (after settings subscription capacity actions o).effects < UInt64.size)
    (fair : ∀ earlier a later, actions = earlier ++ a :: later →
      let o := after settings subscription capacity earlier o
      ¬o.Overtakes (o.step settings subscription capacity a))
    (h : Ordered o) : Ordered (after settings subscription capacity actions o) := by
  -- The writer's log only grows, so session numbers last in each earlier state as well.
  induction actions generalizing o with
  | nil => exact h
  | cons a rest ih =>
      have happens : Happens settings subscription capacity o
          (o.step settings subscription capacity a) := happens_step a
      have written' := written_happens happens written
      have next : Ordered (o.step settings subscription capacity a) := by
        have fits' := Nat.lt_of_le_of_lt (begun_le_after rest) fits
        exact ordered_happens happens coherent written (written'.sorted fits')
          (fair [] a rest rfl) h
      refine ih (coherent_happens happens coherent) written' fits ?_ next
      intro earlier b later split
      exact fair (a :: earlier) b later (by rw [split]; rfl)

/-! ## The way back in time -/

/-- The connection takes and handles one wake after the other. -/
def rounds : Nat → List (Action β τ)
  | 0 => []
  | n + 1 => .take :: .handle true :: rounds n

variable (settings subscription capacity) in
/-- In one round, an attending connection shows the next snapshot. -/
theorem one_round {room : RoomId} {s : Snapshot} {rest : List Snapshot}
    (stage : o.client.stage = .attending) (free : o.wake = none)
    (selected : o.client.selected = some room) (complete : o.client.receiver.missed = 0)
    (waiting : o.client.receiver.pending = s :: rest) (full : s.entities.isSome) :
    let o' := (o.step settings subscription capacity .take).step settings subscription capacity
      (.handle true)
    o'.client = { o.client with receiver := ⟨rest, 0⟩ } ∧ o'.wake = none ∧
      shown o'.log = shown o.log ++ [s] := by
  have took : o.step settings subscription capacity .take =
      o.holding (.relayed s, { o.client with receiver := ⟨rest, 0⟩ }) := by
    simp [step, isFree, stage, free, Client.receive?, Receiver.receive?, complete, waiting]
  obtain ⟨view, found⟩ := Snapshot.exists_roomObjects full room
  have handled : (o.holding (.relayed s, { o.client with receiver := ⟨rest, 0⟩ })).step settings
      subscription capacity (.handle true) =
      (o.holding (.relayed s, { o.client with receiver := ⟨rest, 0⟩ })).answered (.relayed s)
        ({ o.client with receiver := ⟨rest, 0⟩ }, some (.frame (.entities view))) :=
    congrArg (answered _ _) (Client.step_relayed stage selected found)
  rw [took, handled]
  exact ⟨rfl, rfl, shown_answered_of_view rfl⟩

variable (settings subscription capacity) in
theorem shown_rounds {room : RoomId} {line : List Snapshot}
    (stage : o.client.stage = .attending) (free : o.wake = none)
    (selected : o.client.selected = some room) (complete : o.client.receiver.missed = 0)
    (waiting : o.client.receiver.pending = line) (full : ∀ s ∈ line, s.entities.isSome) :
    shown (after settings subscription capacity (rounds line.length) o).log =
      shown o.log ++ line := by
  induction line generalizing o with
  | nil => exact (List.append_nil _).symm
  | cons s rest ih =>
      obtain ⟨client, free', sent⟩ := one_round settings subscription capacity stage free selected
        complete waiting (full s List.mem_cons_self)
      refine (ih ?_ free' ?_ ?_ ?_ fun a ha => full a (List.mem_cons_of_mem s ha)).trans ?_
      · rw [client]
        exact stage
      · rw [client]
        exact selected
      · rw [client]
      · rw [client]
      · rw [sent, List.append_assoc]
        rfl

/-- Overtaking leaves the connection attending, with everything still in its receiver. -/
theorem of_overtakes (happens : Happens settings subscription capacity o o')
    (coherent : Coherent o) (overtakes : o.Overtakes o') :
    ∃ room, o'.client.stage = .attending ∧ o'.wake = none ∧ o'.client.selected = some room ∧
      o'.client.receiver = o.client.receiver := by
  obtain ⟨free, -, s, -, sent, -⟩ := overtakes
  have more (log : List Snapshot) : log ≠ log ++ [s] := by simp
  cases happens with
  | rests | decides | works | stores | relays | takes | reports | hears =>
      exact absurd sent (more _)
  | connects =>
      have nothing : [] = shown o.log ++ [s] := sent
      simp at nothing
  | @reacts w r cause reaction =>
      rcases reaction.sends with plain |
        ⟨a, room, view, -, rfl, ⟨rfl, -⟩ | ⟨-, -, -, place⟩⟩
      · rw [shown_answered_of_isPlain plain] at sent
        exact absurd sent (more _)
      · rcases cause with held | ⟨-, progress⟩
        · rw [held] at free
          cases free
        · cases progress
      · refine ⟨room, rfl, rfl, ?_, rfl⟩
        rcases place with describing | selected
        · exact coherent.selection room (.inr describing)
        · exact selected

/-- **After overtaking, the client goes back** as soon as the connection has taken what its receiver
holds. -/
theorem not_inOrder_of_overtakes (happens : Happens settings subscription capacity o o')
    (coherent : Coherent o) (overtakes : o.Overtakes o') :
    ¬InOrder (shown (after settings subscription capacity
      (rounds o.client.receiver.pending.length) o').log) := by
  obtain ⟨room, stage, free, selected, receiver⟩ := of_overtakes happens coherent overtakes
  obtain ⟨-, complete, s, -, sent, p, waiting, older⟩ := overtakes
  have full : ∀ a ∈ o'.client.receiver.pending, a.entities.isSome :=
    fun a ha => (coherent_happens happens coherent).full a (List.mem_append_right _ ha)
  rw [← receiver] at complete waiting
  rw [← receiver, shown_rounds settings subscription capacity stage free selected complete rfl full,
    sent]
  -- The store's snapshot has been shown, and the older one comes after it.
  intro inOrder
  exact (List.pairwise_append.mp inOrder).2.2 s (by simp) p waiting older

/-! ## Exactly when -/

/-- **A client sees time go back only after overtaking, and it does after each overtaking.** All
entities that are sent belong to a snapshot that has been stored. If they are out of order at the
end of a run, then somewhere in the run the store was read past an older snapshot in the receiver.
And whenever that happens, the connection sends the older snapshot in one of the next rounds. -/
theorem shown_inOrder_unless_overtakes (settings : SyncSettings) (subscription : Subscription β τ)
    (capacity : Nat) (words : List UInt64) (memory : τ) :
    (∀ actions, (after settings subscription capacity actions (start words memory)).Sourced) ∧
    (∀ actions,
      let o := after settings subscription capacity actions (start words memory)
      begun o.effects < UInt64.size → ¬InOrder (shown o.log) →
        ∃ earlier a later, actions = earlier ++ a :: later ∧
          let o := after settings subscription capacity earlier (start words memory)
          o.Overtakes (o.step settings subscription capacity a)) ∧
    ∀ actions a,
      let o := after settings subscription capacity actions (start words memory)
      o.Overtakes (o.step settings subscription capacity a) →
        ¬InOrder (shown (after settings subscription capacity
          (actions ++ a :: rounds o.client.receiver.pending.length) (start words memory)).log) := by
  refine ⟨?_, ?_, ?_⟩
  · exact after_induction (P := Sourced) (fun e he => by cases he)
      fun _ _ happens => sourced_happens happens
  · intro actions o fits backwards
    -- A run that never overtakes keeps the order.
    refine Classical.byContradiction fun never => backwards ?_
    refine (ordered_after actions (coherent_start words memory)
      (written_start words memory) fits ?_ (ordered_start words memory)).shown_inOrder
    intro earlier a later split o overtakes
    exact never ⟨earlier, a, later, split, overtakes⟩
  · intro actions a o overtakes
    have coherent : Coherent o :=
      after_induction (P := Coherent) (coherent_start words memory)
        (fun _ _ happens => coherent_happens happens) actions
    rw [after_append]
    exact not_inOrder_of_overtakes (happens_step a) coherent overtakes

/-! ### A client that goes back -/

open Supervisor in
/-- A client selects a room, and two updates are published before its terrain arrives. -/
def overtaking : List (Action Unit Unit) :=
  writes (.poll false none :: opening [⟨0, 0⟩]) ++ [.hear (.text "0,0"), .handle true] ++
    writes [.hear (tick 1 ⟨0, 0⟩ []), .hear (tick 2 ⟨0, 0⟩ [])] ++
    [.resume (.terrain (.ok [])) true]

theorem shown_not_inOrder :
    let o := after Supervisor.plainSettings Supervisor.noSubscription 64
      (overtaking ++ .resume .sent true :: rounds 2) (start [] ())
    begun o.effects < UInt64.size ∧ (shown o.log).map (·.worldTime) = [2, 1, 2] ∧
      ¬InOrder (shown o.log) := by
  decide +kernel

theorem shown_inOrder_unless_overtakes_overtaking :
    let run := fun actions => after Supervisor.plainSettings Supervisor.noSubscription 64 actions
      (start [] ())
    let o := run overtaking
    o.Overtakes
      (o.step Supervisor.plainSettings Supervisor.noSubscription 64 (.resume .sent true)) ∧
    ¬InOrder (shown (run
      (overtaking ++ .resume .sent true :: rounds o.client.receiver.pending.length)).log) ∧
    ∃ earlier a later, overtaking ++ .resume .sent true :: rounds 2 = earlier ++ a :: later ∧
      (run earlier).Overtakes
        ((run earlier).step Supervisor.plainSettings Supervisor.noSubscription 64 a) := by
  intro run o
  have h := shown_inOrder_unless_overtakes Supervisor.plainSettings Supervisor.noSubscription 64 []
    ()
  have overtakes : o.Overtakes
      (o.step Supervisor.plainSettings Supervisor.noSubscription 64 (.resume .sent true)) := by
    decide +kernel
  have fits : begun (run (overtaking ++ .resume .sent true :: rounds 2)).effects < UInt64.size := by
    decide +kernel
  have backwards : ¬InOrder (shown (run (overtaking ++ .resume .sent true :: rounds 2)).log) := by
    decide +kernel
  exact ⟨overtakes, h.2.2 overtaking _ overtakes, h.2.1 _ fits backwards⟩

end Observation
end HexWorld
