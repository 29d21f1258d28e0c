import HexWorld.Proofs.Relay.Observation

/-!
# `Proofs.Relay.UpToDate` — no update is lost to a stream client

A snapshot reaches a client along one of two ways: it is relayed, or it is read from the store. The
second way skips what is still to be relayed, and a loss in the receiver cuts the first way.
Whatever the order of all steps, a connection with nothing left to handle has sent the newest
snapshot.

Two facts are carried along. The line of relayed snapshots ends with what the store holds, or is
empty; and if it is empty and nothing has been lost, the store has been shown.

## Contents
- `Settled`: the store holds a snapshot that has been relayed.
- `Awaits`: nothing is left to handle.
- `UpToDate`, the invariant, and `upToDate_happens`.
- `lastView_eq_published`.
-/

namespace HexWorld
namespace Observation

variable {β τ : Type} {settings : SyncSettings} {subscription : Subscription β τ} {capacity : Nat}
  {o : Observation β τ}

/-- The store holds a snapshot with entities, and what is stored has been relayed. -/
structure Settled (o : Observation β τ) (s : Snapshot) : Prop where
  published : o.published = some s
  full : s.entities.isSome
  relayed : ¬o.IsNotifying

/-- A connection that has selected a room has nothing left to handle. -/
structure Awaits (o : Observation β τ) (room : RoomId) : Prop where
  stage : o.client.stage = .attending
  selected : o.client.selected = some room
  line : o.line = []
  complete : o.client.receiver.missed = 0
  unreported : ∀ w, o.wake = some w → w.isLagged = false

/-- Nothing has been lost. -/
structure UpToDate (o : Observation β τ) : Prop where
  line : ∀ s, o.Settled s → ∀ a ∈ o.line.getLast?, a = s
  covered : ∀ s room, o.Settled s → o.Awaits room →
    ∃ view, s.roomObjects room = .ok view ∧ (views o.log).getLast? = some view

theorem upToDate_start (words : List UInt64) (memory : τ) :
    UpToDate (start words memory : Observation β τ) where
  line _ _ _ h := by cases h
  covered _ _ h := by cases h.published

/-! ## Reactions of the connection -/

section Answered

variable {w : Wake} {r : Client × Option Outbound}

theorem line_answered (h : UpToDate o)
    (cause : o.wake = some w ∨ o.wake = none ∧ w.isProgress = true)
    (reaction : Client.Reaction o.published o.client w r) {s : Snapshot} (settled : o.Settled s) :
    ∀ a ∈ (o.answered w r).line.getLast?, a = s := by
  intro a last
  have last : r.1.receiver.pending.getLast? = some a := last
  -- The line has lost its front or all of it, so it still ends as before or is empty.
  rcases reaction.receiver with same | skipped
  · refine h.line s settled a ?_
    rw [line_of_cause cause, List.getLast?_append, ← same, last]
    rfl
  · rw [skipped] at last
    cases last

/-- A wake that comes from the client, or goes on with a reply, leaves no less to handle. -/
theorem awaits_of_answered {room : RoomId}
    (cause : o.wake = some w ∨ o.wake = none ∧ w.isProgress = true)
    (own : w.isRequest = true ∨ w.isProgress = true) (stage : o.client.stage = .attending)
    (receiver : r.1.receiver = o.client.receiver) (selected : r.1.selected = o.client.selected)
    (awaits : (o.answered w r).Awaits room) : o.Awaits room where
  stage := stage
  selected := selected ▸ awaits.selected
  line := by
    have empty : r.1.receiver.pending = [] := awaits.line
    rw [line_of_cause cause, (Wake.snapshot?_eq_none own).1, ← receiver, empty]
    rfl
  complete := receiver ▸ awaits.complete
  unreported v held := by
    rcases cause with same | ⟨free, -⟩
    · rw [same] at held
      cases held
      exact (Wake.snapshot?_eq_none own).2
    · rw [free] at held
      cases held

/-- A connection that handles the last snapshot of its line handles the newest one. -/
theorem newest_of_awaits {a s : Snapshot} {room : RoomId} (h : UpToDate o) (settled : o.Settled s)
    (cause : o.wake = some (.relayed a) ∨ o.wake = none ∧ (Wake.relayed a).isProgress = true)
    (receiver : r.1.receiver = o.client.receiver)
    (awaits : (o.answered (.relayed a) r).Awaits room) : a = s := by
  have empty : r.1.receiver.pending = [] := awaits.line
  refine h.line s settled a ?_
  rw [line_of_cause cause, ← receiver, empty]
  rfl

/-- Sending no entities changes nothing for a connection that had nothing left to handle before. -/
theorem covered_of_isPlain {s : Snapshot} {room : RoomId} (h : UpToDate o) (settled : o.Settled s)
    (before : o.Awaits room) (plain : Client.IsPlain r.2) :
    ∃ view, s.roomObjects room = .ok view ∧
      (views o.log ++ (r.2.bind Outbound.view?).toList).getLast? = some view := by
  obtain ⟨view, found, last⟩ := h.covered s room settled before
  refine ⟨view, found, ?_⟩
  rw [plain.bind_view?, Option.toList_none, List.append_nil]
  exact last

/-- A selected room can be looked up in a settled snapshot. -/
theorem Settled.not_silent {s : Snapshot} {room : RoomId} (settled : o.Settled s)
    (selected : o.client.selected = some room) :
    ¬(o.client.selected = none ∨ s.entities = none) := by
  rintro (none | bare)
  · rw [none] at selected
    cases selected
  · have full := settled.full
    rw [bare] at full
    cases full

theorem covered_answered (h : UpToDate o) (coherent : Coherent o)
    (cause : o.wake = some w ∨ o.wake = none ∧ w.isProgress = true)
    (reaction : Client.Reaction o.published o.client w r) {s : Snapshot} {room : RoomId}
    (settled : o.Settled s) (awaits : (o.answered w r).Awaits room) :
    ∃ view, s.roomObjects room = .ok view ∧
      (views (o.answered w r).log).getLast? = some view := by
  rw [views_answered]
  cases reaction with
  | closes | selects | skips | fetches => cases awaits.stage
  | unfit apart =>
      have stage : o.client.stage = .attending := awaits.stage
      have progress := apart.resolve_left (fun other => other stage)
      have before := awaits_of_answered cause (.inr progress) stage rfl rfl awaits
      exact covered_of_isPlain h settled before Client.isPlain_none
  | answers stage request plain =>
      have before := awaits_of_answered cause (.inl request) stage rfl rfl awaits
      exact covered_of_isPlain h settled before plain
  | @shows a room' view stage selected found =>
      -- The line ends here, so what is shown is the snapshot in the store.
      have newest : a = s := newest_of_awaits h settled cause rfl awaits
      have same_room : room' = room := Option.some.inj (selected.symm.trans awaits.selected)
      subst same_room newest
      exact ⟨view, found, List.getLast?_concat⟩
  | @ignores a stage silent =>
      have newest : a = s := newest_of_awaits h settled cause rfl awaits
      exact absurd (newest ▸ silent) (settled.not_silent awaits.selected)
  | @reads w a room' view stage stored found =>
      have selected : o.client.selected = some room' := by
        rcases stage with ⟨describing, -⟩ | ⟨-, -, selected⟩
        · exact coherent.selection room' (.inr describing)
        · exact selected
      have same_room : room' = room := Option.some.inj (selected.symm.trans awaits.selected)
      have newest : a = s := Option.some.inj (stored.symm.trans settled.published)
      subst same_room newest
      exact ⟨view, found, List.getLast?_concat⟩
  | misses stage silent =>
      exact absurd (silent.imp_right fun bare => bare s settled.published)
        (settled.not_silent awaits.selected)

end Answered

/-! ## All steps -/

/-- A step that leaves the line as it is, and no less to handle, loses nothing. -/
theorem UpToDate.of_kept {o' : Observation β τ} (h : UpToDate o)
    (settled : ∀ s, o'.Settled s → o.Settled s) (line : o'.line = o.line)
    (awaits : ∀ room, o'.Awaits room → o.Awaits room) (log : o'.log = o.log) : UpToDate o' where
  line s hs := by
    rw [line]
    exact h.line s (settled s hs)
  covered s room hs ha := by
    rw [log]
    exact h.covered s room (settled s hs) (awaits room ha)

theorem upToDate_stores (coherent : Coherent o) {s : Snapshot} {rest : List Effect}
    (next : o.undone = .store s :: rest) :
    UpToDate { o with done := o.done ++ [.store s], undone := rest, published := some s } := by
  -- What has just been stored has not been relayed, or never will be.
  have unsettled (a : Snapshot) : ¬Settled
      { o with done := o.done ++ [.store s], undone := rest, published := some s } a := by
    intro settled
    have full := settled.full
    rw [← Option.some.inj settled.published] at full
    rcases (next ▸ coherent.pending).bare_or_notifies with bare | ⟨report, relay⟩
    · rw [bare] at full
      cases full
    · exact settled.relayed ⟨s, report, [], relay⟩
  exact ⟨fun a settled => absurd settled (unsettled a),
    fun a _ settled => absurd settled (unsettled a)⟩

theorem upToDate_relays (coherent : Coherent o) {s : Snapshot} {report : Report}
    {rest : List Effect} (next : o.undone = .notify s report :: rest) :
    UpToDate (receiving capacity s
      { o with done := o.done ++ [.notify s report], undone := rest }) := by
  have last : (receiving capacity s
      { o with done := o.done ++ [.notify s report], undone := rest }).line.getLast? = some s := by
    show ((o.wake.bind Wake.snapshot?).toList ++
      (o.client.receiver.push capacity s).pending).getLast? = some s
    rcases Receiver.push_cases capacity s o.client.receiver with pushed | pushed <;>
      rw [pushed, ← List.append_assoc, List.getLast?_concat]
  have pending : Pending o.published o.writer.hub.current (.notify s report :: rest) :=
    next ▸ coherent.pending
  constructor
  · intro a settled b hb
    have stored : o.published = some a := settled.published
    rw [pending.relays.1] at stored
    rw [last] at hb
    exact (Option.some.inj hb).symm.trans (Option.some.inj stored)
  · -- The connection has the relayed snapshot to handle.
    intro a room _ awaits
    rw [awaits.line] at last
    cases last

/-- **Nothing is lost by any step.** -/
theorem upToDate_happens {o' : Observation β τ}
    (happens : Happens settings subscription capacity o o') (coherent : Coherent o)
    (h : UpToDate o) : UpToDate o' := by
  cases happens with
  | rests => exact h
  | decides decided idle =>
      -- A writer that was idle before had relayed everything as well.
      refine h.of_kept ?_ rfl ?_ rfl
      · intro s settled
        refine ⟨settled.published, settled.full, ?_⟩
        rintro ⟨_, _, _, next⟩
        rw [idle] at next
        cases next
      · exact fun room awaits => ⟨awaits.stage, awaits.selected, awaits.line, awaits.complete,
          awaits.unreported⟩
  | works next hidden =>
      refine h.of_kept ?_ rfl ?_ rfl
      · intro s settled
        refine ⟨settled.published, settled.full, ?_⟩
        rintro ⟨_, _, _, relay⟩
        rw [next] at relay
        cases relay
        cases hidden
      · exact fun room awaits => ⟨awaits.stage, awaits.selected, awaits.line, awaits.complete,
          awaits.unreported⟩
  | stores next => exact upToDate_stores coherent next
  | relays next => exact upToDate_relays coherent next
  | connects =>
      constructor
      · intro s _ a last
        cases last
      · intro s room _ awaits
        cases awaits.selected
  | takes stage free complete waiting =>
      refine h.of_kept (fun s settled => ⟨settled.published, settled.full, settled.relayed⟩)
        (line_taking free waiting) ?_ rfl
      intro room awaits
      cases awaits.line
  | reports stage free lossy =>
      refine h.of_kept (fun s settled => ⟨settled.published, settled.full, settled.relayed⟩)
        ?_ ?_ rfl
      · rw [line_of_free free]
        rfl
      · intro room awaits
        cases awaits.unreported _ rfl
  | @hears w stage free request =>
      have same_line := line_hearing free request
      refine h.of_kept (fun s settled => ⟨settled.published, settled.full, settled.relayed⟩)
        same_line ?_ rfl
      intro room awaits
      refine ⟨awaits.stage, awaits.selected, same_line ▸ awaits.line, awaits.complete, ?_⟩
      intro v held
      rw [free] at held
      cases held
  | reacts cause reaction =>
      constructor
      · exact fun s settled => line_answered h cause reaction
          ⟨settled.published, settled.full, settled.relayed⟩
      · exact fun s room settled => covered_answered h coherent cause reaction
          ⟨settled.published, settled.full, settled.relayed⟩

/-- **No update is lost.** Whatever the writer and the connection have done in whatever order: when
the connection is open for a wake and nothing is left in its receiver, and the snapshot in the store
has entities and has been relayed, then the entities sent last are those of the selected room in
this very snapshot, under the name of the room and with the time of the snapshot. -/
theorem lastView_eq_published (settings : SyncSettings) (subscription : Subscription β τ)
    (capacity : Nat) (words : List UInt64) (memory : τ) (actions : List (Action β τ)) :
    let o := after settings subscription capacity actions (start words memory)
    ∀ s room, o.client.stage = .attending → o.wake = none → o.client.selected = some room →
      o.client.receiver = .empty → o.published = some s → s.isInitialized = true →
      ¬o.IsNotifying →
      ∃ view, s.roomObjects room = .ok view ∧ view.room = room ∧ view.time = s.worldTime ∧
        view.payload = (s.room? room).getD .none ∧ (views o.log).getLast? = some view := by
  intro o s room stage free selected empty published full relayed
  have kept (o o' : Observation β τ) (happens : Happens settings subscription capacity o o')
      (h : Coherent o ∧ UpToDate o) : Coherent o' ∧ UpToDate o' :=
    ⟨coherent_happens happens h.1, upToDate_happens happens h.1 h.2⟩
  obtain ⟨-, upToDate⟩ := after_induction (P := fun o => Coherent o ∧ UpToDate o)
    ⟨coherent_start words memory, upToDate_start words memory⟩ kept actions
  have awaits : o.Awaits room := by
    refine ⟨stage, selected, ?_, ?_, ?_⟩
    · rw [line_of_free free, empty]
      rfl
    · rw [empty]
      rfl
    · intro w held
      rw [free] at held
      cases held
  obtain ⟨view, found, last⟩ := upToDate.covered s room ⟨published, full, relayed⟩ awaits
  obtain ⟨own, time, payload⟩ := Snapshot.view_of_roomObjects found
  exact ⟨view, found, own, time, payload, last⟩

/-! ### A client that lags behind -/

open Supervisor in
/-- A client with room for one snapshot selects a room, misses the first of two updates, and catches
up while the writer is about to relay the third. -/
def lagging : List (Action Unit Unit) :=
  writes (.poll false none :: opening [⟨0, 0⟩]) ++
    [.hear (.text "0,0"), .handle true, .resume (.terrain (.ok [])) true, .resume .sent true] ++
    writes [.hear (tick 1 ⟨0, 0⟩ []), .hear (tick 2 ⟨0, 0⟩ [default])] ++
    [.take, .handle true, .write (.hear (tick 3 ⟨0, 0⟩ [default])), .perform,
      .resume .skipped true, .perform, .take, .handle true]

theorem lastView_eq_published_lagging :
    let o := after Supervisor.plainSettings Supervisor.noSubscription 1 lagging (start [] ())
    (views o.log).map (·.time) = [3, 3] ∧
    ∃ s view, o.published = some s ∧ s.roomObjects ⟨⟨0, 0⟩⟩ = .ok view ∧
      view.room = ⟨⟨0, 0⟩⟩ ∧ view.time = s.worldTime ∧
      view.payload = (s.room? ⟨⟨0, 0⟩⟩).getD .none ∧ (views o.log).getLast? = some view := by
  intro o
  have sent : (views o.log).map (·.time) = [3, 3] := by decide +kernel
  have stored : o.published.any (·.isInitialized) = true := by decide +kernel
  have relayed : o.undone.isEmpty = true := by decide +kernel
  have free : o.wake.isNone = true := by decide +kernel
  obtain ⟨s, published, full⟩ := (Option.any_eq_true _ _).mp stored
  have covered := lastView_eq_published Supervisor.plainSettings Supervisor.noSubscription 1 [] ()
    lagging s ⟨⟨0, 0⟩⟩ (by decide +kernel) (Option.isNone_iff_eq_none.mp free) (by decide +kernel)
    (by decide +kernel) published full (by
      rintro ⟨_, _, _, next⟩
      rw [List.isEmpty_iff.mp relayed] at next
      cases next)
  obtain ⟨view, found, own, time, payload, last⟩ := covered
  exact ⟨sent, s, view, published, found, own, time, payload, last⟩

end Observation
end HexWorld
