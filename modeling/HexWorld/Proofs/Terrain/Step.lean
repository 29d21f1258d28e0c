import HexWorld.Proofs.Terrain.Account

/-!
# `Proofs.Terrain.Step` — what a move of a call does

Each move of a call is noted by what it does to the call and to the slot. What it does is decided by
where the call stands and by the outcome that the move brings; the lock is granted to the call that
is first in line, and nobody is in line who does not wait.

## Contents
- `TerrainMove`, `TerrainSlot.move`, `TerrainSlot.run`: runs of the slot.
- `TerrainSlot.note`: what is noted of a move.
- `Bounded.FailsToConnect`, `TerrainOutcome`: what outcomes mean to a call.
- `TerrainStep`: everything a move can do.
- `TerrainSlot.Lined`: the calls that wait are those in line.
- `step_move`: every move is a step.
-/

namespace HexWorld

/-- What happens to a slot: somebody calls, the lock is granted to the call that waits first, a
connection was opened or not, a request has ended. -/
inductive TerrainMove where
  | call (room : RoomId)
  | grant
  | connected (call : Nat) (result : Bounded Unit)
  | answered (call : Nat) (result : Bounded TerrainReply)

/-- What is noted of a call that goes from a stage to another. In its last step a call that found
the source unavailable has changed the slot or not. -/
def TerrainStage.note (n : Nat) (changed : Bool) : TerrainStage → TerrainStage → List TerrainNote
  | .entering, .asking connection => [.found n connection]
  | .connecting, .asking connection => [.opened n connection]
  | .connecting, .done (.error e) => [.unopened n e]
  | .asking connection, .leaving _ e => [.ended n connection (.error e)]
  | .asking connection, .done result => [.ended n connection result]
  | .leaving connection _, .done _ =>
    if changed then [.dropped n connection] else [.kept n connection]
  | _, _ => []

namespace TerrainSlot

def move (timeout : Duration) (s : TerrainSlot) : TerrainMove → TerrainSlot
  | .call room => (s.call room).2
  | .grant => (s.grant?.map (·.2)).getD s
  | .connected n result => s.connected n result
  | .answered n result => s.answered timeout n result

/-- What is noted of a move of a call: it is read off where the call stood before it and after it,
and off the slot. -/
def note (n : Nat) (s s' : TerrainSlot) : List TerrainNote :=
  match s.stage? n, s'.stage? n with
  | some before, some after => before.note n (s'.cached != s.cached) after
  | _, _ => []

/-- What is noted of a move. -/
def notes (timeout : Duration) (s : TerrainSlot) (m : TerrainMove) : List TerrainNote :=
  match m with
  | .call _ => []
  | .grant =>
    match s.grant? with
    | some (n, s') => note n s s'
    | none => []
  | .connected n _ | .answered n _ => note n s (s.move timeout m)

/-- A run: where it leads, and what is noted of it. -/
def run (timeout : Duration) : List TerrainMove → TerrainSlot → TerrainSlot × List TerrainNote
  | [], s => (s, [])
  | m :: rest, s =>
    let (last, later) := run timeout rest (s.move timeout m)
    (last, s.notes timeout m ++ later)

variable {timeout : Duration} {s : TerrainSlot} {n : Nat}

/-- **A run that goes on**: what is noted of one more move comes after all other notes. -/
theorem run_concat (timeout : Duration) (moves : List TerrainMove) (m : TerrainMove)
    (s : TerrainSlot) :
    run timeout (moves ++ [m]) s =
      let r := run timeout moves s
      (r.1.move timeout m, r.2 ++ r.1.notes timeout m) := by
  induction moves generalizing s with
  | nil => exact Prod.ext rfl (List.append_nil _)
  | cons first rest ih =>
      have later := ih (s.move timeout first)
      rw [List.cons_append, run, later]
      exact Prod.ext rfl (List.append_assoc _ _ _).symm

/-! ## Moves -/

/-- The slot itself: the connection that it holds, how many were opened, who holds the lock, and who
waits for it. -/
def slot (s : TerrainSlot) : Option Nat × Nat × Option Nat × List Nat :=
  (s.cached, s.opened, s.holder, s.queue)

theorem of_slot {cached : Option Nat} {opened : Nat} {holder : Option Nat} {queue : List Nat}
    (h : s.slot = (cached, opened, holder, queue)) :
    s.cached = cached ∧ s.opened = opened ∧ s.holder = holder ∧ s.queue = queue := by
  cases h
  exact ⟨rfl, rfl, rfl, rfl⟩

/-- One call has changed, or is new, and all others stand where they stood. -/
def Moved (s : TerrainSlot) (n : Nat) (c : TerrainCall) (s' : TerrainSlot) : Prop :=
  ∀ k, s'.calls[k]? = if k = n then some c else s.calls[k]?

/-- The lock is free, and the call is the first that waits for it. -/
def IsNext (s : TerrainSlot) (n : Nat) (queue : List Nat) : Prop :=
  s.holder = none ∧ s.queue = n :: queue

variable {s' : TerrainSlot} {c : TerrainCall} {room : RoomId} {before after : TerrainStage}

theorem stage?_of_call (stands : s.calls[n]? = some c) : s.stage? n = some c.stage := by
  rw [stage?, stands]
  rfl

theorem exists_call (stands : s.stage? n = some before) :
    ∃ room, s.calls[n]? = some ⟨room, before⟩ := by
  obtain ⟨c, found, rfl⟩ := Option.map_eq_some_iff.mp stands
  exact ⟨c.room, found⟩

theorem moved_of_calls (stands : s.calls[n]? = some ⟨room, before⟩)
    (calls : s'.calls = s.calls.modify n fun c => { c with stage := after }) :
    s.Moved n ⟨room, after⟩ s' := by
  intro k
  rw [calls, List.getElem?_modify]
  by_cases same : k = n
  · subst same
    simp [stands]
  · simp [same, Ne.symm same]

namespace Moved

theorem stage? (h : s.Moved n c s') (k : Nat) :
    s'.stage? k = if k = n then some c.stage else s.stage? k := by
  rw [TerrainSlot.stage?, h k]
  split <;> rfl

theorem self (h : s.Moved n c s') : s'.stage? n = some c.stage :=
  (h.stage? n).trans (if_pos rfl)

end Moved

end TerrainSlot

/-- No connection is opened: the source fails, or it takes too long. -/
inductive Bounded.FailsToConnect : Bounded Unit → SourceError → Prop where
  | failed (e : SourceError) : FailsToConnect (.answered (.error e)) e
  | late : FailsToConnect .elapsed (.unavailable "connect timed out (deadline has elapsed)")

/-- What a request for the terrain of a room comes to. A reply about another room is a breach of the
protocol, and a source that takes too long is unavailable. -/
inductive TerrainOutcome (timeout : Duration) (room : RoomId) :
    Bounded TerrainReply → Except SourceError (List TerrainTile) → Prop where
  | shown (tiles : List TerrainTile) :
      TerrainOutcome timeout room (.answered (.ok ⟨room.axial, tiles⟩)) (.ok tiles)
  | stray {other : Axial} (tiles : List TerrainTile) (differs : other ≠ room.axial) :
      TerrainOutcome timeout room (.answered (.ok ⟨other, tiles⟩)) (.error <| .protocol
        s!"asked for terrain of {room.text}, got {RoomId.text ⟨other⟩}")
  | failed (e : SourceError) : TerrainOutcome timeout room (.answered (.error e)) (.error e)
  | late : TerrainOutcome timeout room .elapsed (.error <| .unavailable
      s!"GetRoomTerrain gave no answer within {timeout.toMillis}ms (deadline has elapsed)")

/-- Everything a move can do, with what is noted of it. -/
inductive TerrainStep (timeout : Duration) (s s' : TerrainSlot) :
    TerrainMove → List TerrainNote → Prop where
  /-- A new call gets in line. -/
  | calls {room} (moved : s.Moved s.calls.length ⟨room, .entering⟩ s')
      (slot : s'.slot = (s.cached, s.opened, s.holder, s.queue ++ [s.calls.length])) :
      TerrainStep timeout s s' (.call room) []
  /-- The lock is not free, or nobody waits for it. -/
  | rests (idle : ∀ n queue, ¬s.IsNext n queue) (same : s' = s) : TerrainStep timeout s s' .grant []
  | finds {n queue room connection} (next : s.IsNext n queue)
      (stands : s.calls[n]? = some ⟨room, .entering⟩) (cached : s.cached = some connection)
      (moved : s.Moved n ⟨room, .asking connection⟩ s')
      (slot : s'.slot = (s.cached, s.opened, s.holder, queue)) :
      TerrainStep timeout s s' .grant [.found n connection]
  | holds {n queue room} (next : s.IsNext n queue) (stands : s.calls[n]? = some ⟨room, .entering⟩)
      (empty : s.cached = none) (moved : s.Moved n ⟨room, .connecting⟩ s')
      (slot : s'.slot = (s.cached, s.opened, some n, queue)) : TerrainStep timeout s s' .grant []
  | drops {n queue room connection e} (next : s.IsNext n queue)
      (stands : s.calls[n]? = some ⟨room, .leaving connection e⟩)
      (cached : s.cached = some connection) (moved : s.Moved n ⟨room, .done (.error e)⟩ s')
      (slot : s'.slot = (none, s.opened, s.holder, queue)) :
      TerrainStep timeout s s' .grant [.dropped n connection]
  /-- The connection that failed has been replaced, or given up, by others. -/
  | keeps {n queue room connection e} (next : s.IsNext n queue)
      (stands : s.calls[n]? = some ⟨room, .leaving connection e⟩)
      (other : s.cached ≠ some connection) (moved : s.Moved n ⟨room, .done (.error e)⟩ s')
      (slot : s'.slot = (s.cached, s.opened, s.holder, queue)) :
      TerrainStep timeout s s' .grant [.kept n connection]
  | opens {n room} (stands : s.calls[n]? = some ⟨room, .connecting⟩)
      (moved : s.Moved n ⟨room, .asking s.opened⟩ s')
      (slot : s'.slot = (some s.opened, s.opened + 1, none, s.queue)) :
      TerrainStep timeout s s' (.connected n (.answered (.ok ()))) [.opened n s.opened]
  | fails {n room result e} (stands : s.calls[n]? = some ⟨room, .connecting⟩)
      (failed : result.FailsToConnect e) (moved : s.Moved n ⟨room, .done (.error e)⟩ s')
      (slot : s'.slot = (s.cached, s.opened, none, s.queue)) :
      TerrainStep timeout s s' (.connected n result) [.unopened n e]
  /-- Nobody waits for such a connection. -/
  | unawaited {n result} (elsewhere : s.stage? n ≠ some .connecting) (same : s' = s) :
      TerrainStep timeout s s' (.connected n result) []
  | ends {n room connection result outcome} (stands : s.calls[n]? = some ⟨room, .asking connection⟩)
      (comes : TerrainOutcome timeout room result outcome)
      (available : ∀ detail, outcome ≠ .error (.unavailable detail))
      (moved : s.Moved n ⟨room, .done outcome⟩ s') (slot : s'.slot = s.slot) :
      TerrainStep timeout s s' (.answered n result) [.ended n connection outcome]
  /-- The source is unavailable, and the call gets in line once more. -/
  | loses {n room connection result detail}
      (stands : s.calls[n]? = some ⟨room, .asking connection⟩)
      (comes : TerrainOutcome timeout room result (.error (.unavailable detail)))
      (moved : s.Moved n ⟨room, .leaving connection (.unavailable detail)⟩ s')
      (slot : s'.slot = (s.cached, s.opened, s.holder, s.queue ++ [n])) :
      TerrainStep timeout s s' (.answered n result)
        [.ended n connection (.error (.unavailable detail))]
  /-- Nobody waits for such an answer. -/
  | unasked {n result} (elsewhere : ∀ connection, s.stage? n ≠ some (.asking connection))
      (same : s' = s) : TerrainStep timeout s s' (.answered n result) []

/-- The call waits for the lock. -/
def TerrainStage.IsWaiting : TerrainStage → Prop
  | .entering | .leaving .. => True
  | .connecting | .asking _ | .done _ => False

namespace TerrainSlot

variable {timeout : Duration} {s s' : TerrainSlot} {m : TerrainMove} {n : Nat} {room : RoomId}
  {queue : List Nat} {c : TerrainCall} {before after : TerrainStage}

/-! ## The line -/

def Waits (n : Nat) (s : TerrainSlot) : Prop :=
  ∃ stage, s.stage? n = some stage ∧ stage.IsWaiting

/-- The calls that wait for the lock are in line for it, each of them once. -/
structure Lined (s : TerrainSlot) : Prop where
  nodup : s.queue.Nodup
  mem_iff : ∀ n, n ∈ s.queue ↔ s.Waits n

theorem waits_iff (stands : s.calls[n]? = some c) : s.Waits n ↔ c.stage.IsWaiting := by
  rw [Waits, stage?_of_call stands]
  simp

theorem Moved.waits_iff (h : s.Moved n c s') (k : Nat) :
    s'.Waits k ↔ if k = n then c.stage.IsWaiting else s.Waits k := by
  rw [Waits, h.stage? k]
  by_cases same : k = n
  · simp [same]
  · rw [if_neg same, if_neg same]
    rfl

namespace Lined

theorem start : empty.Lined where
  nodup := .nil
  mem_iff n := by simp [empty, Waits, stage?]

/-- The first in line has had the lock, and waits no more. -/
theorem leave (h : s.Lined) (next : s.IsNext n queue) (moved : s.Moved n c s')
    (served : ¬c.stage.IsWaiting) (line : s'.queue = queue) : s'.Lined := by
  have nodup := h.nodup
  rw [next.2, List.nodup_cons] at nodup
  refine ⟨line ▸ nodup.2, fun k => ?_⟩
  rw [line, moved.waits_iff k, ← h.mem_iff k, next.2, List.mem_cons]
  by_cases same : k = n
  · rw [if_pos same, same]
    exact iff_of_false nodup.1 served
  · rw [if_neg same]
    exact (or_iff_right same).symm

/-- A call gets in line. -/
theorem join (h : s.Lined) (moved : s.Moved n c s') (away : ¬s.Waits n)
    (waits : c.stage.IsWaiting) (line : s'.queue = s.queue ++ [n]) : s'.Lined := by
  have outside : n ∉ s.queue := fun mem => away ((h.mem_iff n).mp mem)
  constructor
  · rw [line, List.nodup_append]
    refine ⟨h.nodup, by simp, fun a mem b last same => ?_⟩
    rw [same, List.mem_singleton.mp last] at mem
    exact outside mem
  · intro k
    rw [line, moved.waits_iff k, List.mem_append, List.mem_singleton]
    by_cases same : k = n
    · rw [if_pos same]
      exact iff_of_true (.inr same) waits
    · rw [if_neg same, or_iff_left same]
      exact h.mem_iff k

/-- A call that does not wait goes on without the lock. -/
theorem stay (h : s.Lined) (moved : s.Moved n c s') (away : ¬s.Waits n)
    (still : ¬c.stage.IsWaiting) (line : s'.queue = s.queue) : s'.Lined := by
  refine ⟨line ▸ h.nodup, fun k => ?_⟩
  rw [line, moved.waits_iff k, h.mem_iff k]
  by_cases same : k = n
  · rw [if_pos same, same]
    exact iff_of_false away still
  · rw [if_neg same]

theorem step {notes : List TerrainNote} (h : s.Lined) (step : TerrainStep timeout s s' m notes) :
    s'.Lined := by
  cases step with
  | rests _ same | unawaited _ same | unasked _ same => exact same ▸ h
  | calls moved slot =>
      have away : ¬s.Waits s.calls.length := by
        rintro ⟨stage, stands, -⟩
        rw [stage?, List.getElem?_eq_none (Nat.le_refl _)] at stands
        cases stands
      exact h.join moved away trivial (of_slot slot).2.2.2
  | finds next _ _ moved slot | holds next _ _ moved slot | drops next _ _ moved slot
  | keeps next _ _ moved slot =>
      exact h.leave next moved id (of_slot slot).2.2.2
  | opens stands moved slot | fails stands _ moved slot =>
      exact h.stay moved (fun waits => (waits_iff stands).mp waits) id (of_slot slot).2.2.2
  | ends stands _ _ moved slot =>
      exact h.stay moved (fun waits => (waits_iff stands).mp waits) id (of_slot slot).2.2.2
  | loses stands _ moved slot =>
      exact h.join moved (fun waits => (waits_iff stands).mp waits) trivial (of_slot slot).2.2.2

end Lined

/-! ## Every move is a step -/

/-- A call that moves is noted by where it stood and where it went. -/
theorem step_of_calls (stands : s.calls[n]? = some ⟨room, before⟩)
    (calls : s'.calls = s.calls.modify n fun c => { c with stage := after })
    (step : s.Moved n ⟨room, after⟩ s' →
      TerrainStep timeout s s' m (before.note n (s'.cached != s.cached) after)) :
    TerrainStep timeout s s' m (note n s s') := by
  have moved := moved_of_calls stands calls
  unfold note
  rw [stage?_of_call stands, moved.self]
  exact step moved

/-- Nothing is noted of a call that stands still. -/
theorem note_self (n : Nat) (s : TerrainSlot) : note n s s = [] := by
  unfold note
  cases s.stage? n with
  | none => rfl
  | some stage => cases stage <;> rfl

theorem step_connected (result : Bounded Unit) :
    TerrainStep timeout s (s.connected n result) (.connected n result)
      (note n s (s.connected n result)) := by
  by_cases connecting : s.stage? n = some .connecting
  · obtain ⟨room, stands⟩ := exists_call connecting
    have fails {e : SourceError} (failed : result.FailsToConnect e)
        (lost : s.connected n result =
          { s.setStage n (.done (.error e)) with holder := none }) :
        TerrainStep timeout s (s.connected n result) (.connected n result)
          (note n s (s.connected n result)) := by
      rw [lost]
      exact step_of_calls stands rfl fun moved => .fails stands failed moved rfl
    rcases result with (e | ⟨⟩) | -
    · exact fails (.failed e) (by simp [connected, connecting, Bounded.ofConnect, setStage])
    · have opened : s.connected n (.answered (.ok ())) =
          { s.setStage n (.asking s.opened) with
            holder := none, cached := some s.opened, opened := s.opened + 1 } := by
        simp [connected, connecting, Bounded.ofConnect, setStage]
      rw [opened]
      exact step_of_calls stands rfl fun moved => .opens stands moved rfl
    · exact fails .late (by simp [connected, connecting, Bounded.ofConnect, setStage])
  · have still : s.connected n result = s := by
      unfold connected
      split
      next stands => exact absurd stands connecting
      next => rfl
    rw [still, note_self]
    exact .unawaited connecting rfl

/-- The result of a request is what its outcome means. -/
theorem terrainOutcome_resultFor (timeout : Duration) (room : RoomId)
    (result : Bounded TerrainReply) :
    TerrainOutcome timeout room result (resultFor timeout room result) := by
  rcases result with (e | ⟨about, tiles⟩) | -
  · exact .failed e
  · show TerrainOutcome timeout room _ (TerrainReply.tilesOf room ⟨about, tiles⟩)
    rcases room with ⟨axial⟩
    unfold TerrainReply.tilesOf
    by_cases own : about = axial
    · subst own
      rw [if_pos rfl]
      exact .shown tiles
    · rw [if_neg (fun same => own (RoomId.mk.inj same))]
      exact .stray tiles own
  · exact .late

theorem step_answered (result : Bounded TerrainReply) :
    TerrainStep timeout s (s.answered timeout n result) (.answered n result)
      (note n s (s.answered timeout n result)) := by
  unfold answered
  split
  next room connection stands =>
    have comes := terrainOutcome_resultFor timeout room result
    split
    next detail outage =>
      rw [outage] at comes
      exact step_of_calls stands rfl fun moved => .loses stands comes moved rfl
    next available =>
      exact step_of_calls stands rfl fun moved => .ends stands comes available moved rfl
  next elsewhere =>
    rw [note_self]
    refine .unasked (fun connection asking => ?_) rfl
    obtain ⟨room, stands⟩ := exists_call asking
    exact elsewhere room connection stands

/-- A call that gives up a connection empties the slot only if that holds the connection. -/
theorem step_leaving {connection : Nat} {e : SourceError} (next : s.IsNext n queue)
    (stands : s.calls[n]? = some ⟨room, .leaving connection e⟩)
    (calls : s'.calls = s.calls.modify n fun c => { c with stage := .done (.error e) })
    (slot : s'.slot =
      (if s.cached = some connection then none else s.cached, s.opened, s.holder, queue)) :
    TerrainStep timeout s s' .grant (note n s s') := by
  refine step_of_calls stands calls fun moved => ?_
  show TerrainStep timeout s s' .grant (if s'.cached != s.cached then _ else _)
  obtain ⟨cached, -⟩ := of_slot slot
  by_cases same : s.cached = some connection
  · rw [if_pos same] at slot cached
    have changed : (s'.cached != s.cached) = true := by
      rw [cached, same]
      rfl
    rw [if_pos changed]
    exact .drops next stands same moved slot
  · rw [if_neg same] at slot cached
    have unchanged : ¬(s'.cached != s.cached) = true := by
      rw [cached]
      simp
    rw [if_neg unchanged]
    exact .keeps next stands same moved slot

/-- Granting the lock is a step of the call that waits first. -/
theorem step_grant (lined : s.Lined) (granted : s.grant? = some (n, s')) :
    TerrainStep timeout s s' .grant (note n s s') := by
  obtain ⟨queue, next⟩ : ∃ queue, s.IsNext n queue := by
    unfold grant? at granted
    split at granted
    next first queue free line =>
      exact ⟨queue, free, (Prod.mk.inj (Option.some.inj granted)).1 ▸ line⟩
    next => cases granted
  -- Who is in line waits for the lock, so the call enters or leaves.
  obtain ⟨stage, waiting, waits⟩ := (lined.mem_iff n).mp (next.2 ▸ List.mem_cons_self)
  obtain ⟨room, stands⟩ := exists_call waiting
  cases stage with
  | entering =>
      cases cached : s.cached with
      | some connection =>
          have found : s.grant? = some (n, { s.setStage n (.asking connection) with queue }) := by
            simp [grant?, next.1, next.2, stage?, stands, cached, setStage]
          cases granted.symm.trans found
          exact step_of_calls stands rfl fun moved => .finds next stands cached moved rfl
      | none =>
          have held : s.grant? =
              some (n, { s.setStage n .connecting with holder := some n, queue }) := by
            simp [grant?, next.1, next.2, stage?, stands, cached, setStage]
          cases granted.symm.trans held
          exact step_of_calls stands rfl fun moved => .holds next stands cached moved rfl
  | leaving connection e =>
      have left : s.grant? = some (n, { s.setStage n (.done (.error e)) with
          cached := if s.cached = some connection then none else s.cached, queue }) := by
        simp [grant?, next.1, next.2, stage?, stands, setStage]
      cases granted.symm.trans left
      exact step_leaving next stands rfl rfl
  | connecting | asking | done => cases waits

theorem step_call (room : RoomId) : TerrainStep timeout s (s.call room).2 (.call room) [] := by
  refine .calls (fun k => ?_) rfl
  show (s.calls ++ [_])[k]? = _
  rcases Nat.lt_trichotomy k s.calls.length with below | rfl | above
  · rw [List.getElem?_append_left below, if_neg (Nat.ne_of_lt below)]
  · rw [List.getElem?_concat_length, if_pos rfl]
  · have outside : (s.calls ++ [(⟨room, .entering⟩ : TerrainCall)]).length ≤ k := by
      rw [List.length_append]
      exact above
    rw [List.getElem?_eq_none outside, if_neg (Nat.ne_of_gt above),
      List.getElem?_eq_none (Nat.le_of_lt above)]

/-- **Every move is a step.** -/
theorem step_move (timeout : Duration) (lined : s.Lined) (m : TerrainMove) :
    TerrainStep timeout s (s.move timeout m) m (s.notes timeout m) := by
  cases m with
  | call room => exact step_call room
  | connected n result => exact step_connected result
  | answered n result => exact step_answered result
  | grant =>
      unfold move notes
      cases granted : s.grant? with
      | some r => exact step_grant lined granted
      | none =>
          refine .rests (fun n queue next => ?_) rfl
          simp [grant?, next.1, next.2] at granted

end TerrainSlot

end HexWorld
