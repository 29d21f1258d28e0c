import HexWorld.Proofs.Sync.Traffic
import HexWorld.Rehearsal.Callback

/-!
# `Proofs.Sync.Reentry` — subscribers that use the registry while they are called

A notification walks through the list that it has looked at, and the subscribers on it may do to the
registry whatever they like, or start another notification. All that they do is calls that go
forward while theirs waits; so what is true of calls whose steps come in any order is true of them,
however deep they lie in one another.

## Contents
- `Registry.tracing`, `notify_tracing`: whom a notification calls, and how the calls end.
- `Traffic.toNat_reportOf`: reports add up.
- `Traffic.Reaches`: what can be made of a registry by calls on it.
- `exists_run_notify`: a notification with all that goes on within is a run.
- `Conduct.reaches_notify`: the subscribers of a machine.
- `Rehearsal.Stage.reaches_notify`: subscribers that follow a script, at any depth.
- `Traffic.serves_all_callers`.
-/

namespace HexWorld

/-! ## One notification -/

namespace Registry

variable {β σ : Type}

/-- The same calls; whom they reach and how they end is noted down. -/
def tracing (call : Entry β → σ → σ × Outcome) (e : Entry β)
    (state : σ × List (Entry β × Outcome)) : (σ × List (Entry β × Outcome)) × Outcome :=
  let (s, outcome) := call e state.1
  ((s, state.2 ++ [(e, outcome)]), outcome)

/-- Noting changes nothing; everybody is called once, in order, and every call is counted. -/
theorem callAll_tracing (call : Entry β → σ → σ × Outcome) (entries : List (Entry β)) (s : σ)
    (before : List (Entry β × Outcome)) (report : Report) : ∃ done,
    callAll (tracing call) entries (s, before) report =
      (((callAll call entries s report).1, before ++ done), (callAll call entries s report).2) ∧
    done.map Prod.fst = entries ∧
    (callAll call entries s report).2 = (done.map Prod.snd).foldl Report.count report := by
  induction entries generalizing s before report with
  | nil => exact ⟨[], by rw [List.append_nil]; rfl, rfl, rfl⟩
  | cons e rest ih =>
      obtain ⟨done, same, everyone, counted⟩ :=
        ih (call e s).1 (before ++ [(e, (call e s).2)]) (report.count (call e s).2)
      refine ⟨(e, (call e s).2) :: done, ?_, congrArg (e :: ·) everyone, counted⟩
      rw [List.append_cons]
      exact same

/-- **Whatever subscribers do**, a notification calls everybody on the list once, in order, and its
report counts how the calls end. -/
theorem notify_tracing (call : Entry β → σ → σ × Outcome) (r : Registry β) (s : σ) : ∃ done,
    r.notify (tracing call) (s, []) = (((r.notify call s).1, done), (r.notify call s).2) ∧
    done.map Prod.fst = r.entries ∧ (r.notify call s).2 = Traffic.reportOf done :=
  callAll_tracing call r.entries s [] .none

end Registry

/-! ## Reports -/

theorem delivered_foldl_count (outcomes : List Outcome) (report : Report) :
    (outcomes.foldl Report.count report).delivered.toNat =
      min (report.delivered.toNat + outcomes.countP (!·.isBad)) (UInt64.size - 1) := by
  induction outcomes generalizing report with
  | nil =>
      have below : report.delivered.toNat < UInt64.size := report.delivered.toNat_lt
      show report.delivered.toNat = _
      rw [List.countP_nil]
      omega
  | cons outcome rest ih =>
      rw [List.foldl_cons, ih, List.countP_cons]
      cases outcome with
      | failed | panicked => rfl
      | handled =>
          have good : (!Outcome.handled.isBad) = true := rfl
          have counted : (report.count .handled).delivered.toNat =
              min (report.delivered.toNat + 1) (UInt64.size - 1) :=
            Saturating.toNat_next64 report.delivered
          rw [if_pos good, counted]
          omega

namespace Traffic

variable {β : Type}

/-- Reports add up, as long as there are numbers enough. -/
theorem toNat_reportOf {done : List (Entry β × Outcome)} (few : done.length < UInt64.size) :
    (reportOf done).delivered.toNat + (reportOf done).failed.toNat = done.length ∧
      (reportOf done).failed.toNat = (done.map Prod.snd).countP Outcome.isBad := by
  have all : done.length = (done.map Prod.snd).countP Outcome.isBad +
      (done.map Prod.snd).countP (!·.isBad) := by
    have split := List.length_eq_countP_add_countP Outcome.isBad (l := done.map Prod.snd)
    simpa using split
  have delivered := delivered_foldl_count (done.map Prod.snd) .none
  have failed := failed_foldl_count (done.map Prod.snd) .none
  have none : Report.none.delivered.toNat = 0 ∧ Report.none.failed.toNat = 0 := ⟨rfl, rfl⟩
  unfold reportOf
  omega

/-! ## Runs within runs -/

/-- What can be made of a registry by calls on it that have all returned, whoever else is in the
middle of one. -/
def Reaches (r r' : Registry β) : Prop :=
  ∀ calls : List (Stage β), ∃ moves later, (run moves ⟨r, calls⟩).1 = ⟨r', calls ++ later⟩

namespace Reaches

variable {r r' r'' : Registry β}

theorem refl (r : Registry β) : Reaches r r := fun calls =>
  ⟨[], [], by rw [List.append_nil]; rfl⟩

theorem trans (h : Reaches r r') (h' : Reaches r' r'') : Reaches r r'' := by
  intro calls
  obtain ⟨moves, later, first⟩ := h calls
  obtain ⟨moves', later', second⟩ := h' (calls ++ later)
  refine ⟨moves ++ moves', later ++ later', ?_⟩
  rw [run_append, first, second, List.append_assoc]

end Reaches

theorem run_call (request : Request β) (moves : List (Move β)) (t : Traffic β) :
    (run (.call request :: moves) t).1 = (run moves ⟨t.registry, t.calls ++ [request.stage]⟩).1 :=
  rfl

/-- A call goes one step further, wherever it stands among the others. -/
theorem run_step {r r' : Registry β} {outcome : Outcome} {stage stage' : Stage β} {deed : Deed β}
    (next : stage.next? r outcome = some (stage', r', deed)) (before after : List (Stage β))
    (moves : List (Move β)) :
    (run (.step before.length outcome :: moves) ⟨r, before ++ stage :: after⟩).1 =
      (run moves ⟨r', before ++ stage' :: after⟩).1 := by
  have stands : (before ++ stage :: after)[before.length]? = some stage := by simp
  have moved : (before ++ stage :: after).set before.length stage' = before ++ stage' :: after := by
    simp
  rw [run, move_step (t := ⟨r, before ++ stage :: after⟩) stands next, moved]

theorem reaches_register (b : β) (r : Registry β) : Reaches r (r.register b).2 := by
  intro calls
  refine ⟨[.call (.register b), .step calls.length .handled, .step calls.length .handled],
    [.registered ⟨r.nextId, b⟩], ?_⟩
  rw [run_call, run_step rfl, run_step rfl]
  rfl

theorem reaches_deregister (id : UInt64) (r : Registry β) : Reaches r (r.deregister id).2 := by
  intro calls
  refine ⟨[.call (.deregister id), .step calls.length .handled],
    [.deregistered id (r.deregister id).1], ?_⟩
  rw [run_call, run_step rfl]
  rfl

theorem reaches_changes (changes : List (Change β)) (r : Registry β) :
    Reaches r (changes.foldl Registry.change r) := by
  induction changes generalizing r with
  | nil => exact .refl r
  | cons c rest ih =>
      refine .trans ?_ (ih (r.change c))
      cases c with
      | register b => exact reaches_register b r
      | deregister id => exact reaches_deregister id r

section Notification

variable {σ : Type} (registry : σ → Registry β) {call : Entry β → σ → σ × Outcome}

/-- The rest of a notification, with all that the subscribers do, is a run. -/
theorem exists_run_passing (acts : ∀ e s, Reaches (registry s) (registry (call e s).1))
    (entries : List (Entry β)) (s : σ) (report : Report) (before after : List (Stage β)) :
    ∃ moves later, (run moves ⟨registry s, before ++ .passing entries report :: after⟩).1 =
      ⟨registry (Registry.callAll call entries s report).1,
        before ++ .notified (Registry.callAll call entries s report).2 :: after ++ later⟩ := by
  induction entries generalizing s report after with
  | nil =>
      refine ⟨[.step before.length .handled], [], ?_⟩
      rw [run_step rfl, List.append_nil]
      rfl
  | cons e rest ih =>
      -- The calls made by the subscriber stay behind; the notification goes on in front of them.
      obtain ⟨inner, deeper, within⟩ :=
        acts e s (before ++ .calling e rest report :: after)
      obtain ⟨moves, later, through⟩ :=
        ih (call e s).1 (report.count (call e s).2) (after ++ deeper)
      refine ⟨.step before.length .handled :: (inner ++ .step before.length (call e s).2 :: moves),
        deeper ++ later, ?_⟩
      rw [run_step rfl, run_append, within]
      dsimp only
      rw [List.append_assoc, List.cons_append, run_step rfl, through]
      simp only [List.append_assoc, List.cons_append]
      rfl

/-- **A notification is a run**, with all that the subscribers do: it returns as a call does whose
steps come among those of others. -/
theorem exists_run_notify (acts : ∀ e s, Reaches (registry s) (registry (call e s).1)) (s : σ)
    (calls : List (Stage β)) :
    ∃ moves later, (run (.call .notify :: moves) ⟨registry s, calls⟩).1 =
      ⟨registry ((registry s).notify call s).1,
        calls ++ .notified ((registry s).notify call s).2 :: later⟩ := by
  obtain ⟨moves, later, through⟩ :=
    exists_run_passing registry acts (registry s).entries s .none calls []
  refine ⟨.step calls.length .handled :: moves, later, ?_⟩
  rw [run_call, run_step rfl, through]
  simp only [List.append_assoc, List.cons_append, List.nil_append]
  rfl

theorem reaches_notify (acts : ∀ e s, Reaches (registry s) (registry (call e s).1)) (s : σ) :
    Reaches (registry s) (registry ((registry s).notify call s).1) := by
  intro calls
  obtain ⟨moves, later, through⟩ := exists_run_notify registry acts s calls
  exact ⟨_, _, through⟩

end Notification

end Traffic

/-! ## Subscribers of a machine -/

/-- A notification by a machine is a run, whatever its subscribers change. -/
theorem Conduct.reaches_notify {β τ : Type} (c : Conduct β τ) (found : Option Snapshot)
    (s : Snapshot) (r : Registry β) (memory : τ) :
    Traffic.Reaches r (r.notify (c.subscription found s) (r, memory)).1.1 :=
  Traffic.reaches_notify Prod.fst (fun _ state => Traffic.reaches_changes _ state.1) (r, memory)

/-! ## Subscribers that follow a script -/

namespace Rehearsal.Stage

open Traffic

/-- The acts of a subscriber are calls, if the notifications among them are. -/
theorem reaches_perform {nested : Stage → Stage × Report}
    (deeper : ∀ s, Reaches s.registry (nested s).1.registry) (name : String) (call : Nat)
    (acts : List (Option Nat × Act)) (s : Stage) :
    Reaches s.registry (perform nested name call acts s).1.registry := by
  induction acts generalizing s with
  | nil => exact .refl _
  | cons first rest ih =>
      obtain ⟨on, act⟩ := first
      unfold perform
      split
      · exact ih s
      · cases act with
        | fail | panic => exact .refl _
        | add script =>
            show Reaches _ (perform nested name call rest ((s.register script).2.note _)).1.registry
            refine .trans ?_ (ih _)
            exact reaches_register _ s.registry
        | notify =>
            show Reaches _ (perform nested name call rest ((nested s).1.note _)).1.registry
            refine .trans ?_ (ih _)
            exact deeper s
        | remove handle =>
            show Reaches _
              (perform nested name call rest ((s.deregister handle).2.note _)).1.registry
            refine .trans ?_ (ih _)
            show Reaches s.registry (s.deregister handle).2.registry
            unfold deregister
            split
            · exact reaches_deregister _ s.registry
            · exact .refl _

theorem reaches_notify (depth : Nat) (time : Int) (s : Stage) :
    Reaches s.registry (notify depth time s).1.registry := by
  induction depth generalizing time s with
  | zero => exact .refl _
  | succ depth ih =>
      refine Traffic.reaches_notify Stage.registry (fun e s => ?_) s
      obtain ⟨id, index, script⟩ := e
      exact reaches_perform (ih (-1)) script.name _ script.acts
        ({ s with calls := s.calls.set index (s.calls[index]?.getD 0 + 1) }.note
          s!"{script.name}@{time}")

end Rehearsal.Stage

/-! ## All callers -/

namespace Traffic

variable {β : Type}

/-- The number of a removal is in use: somebody was put on the list under it, and nobody has removed
it since. -/
def IsInUse (id : UInt64) (deeds : List (Nat × Deed β)) : Prop :=
  ∃ past n e later, deeds = past ++ (n, .enlisted e) :: later ∧ e.id = id ∧
    removesAny id later = false

theorem isInUse_iff {id : UInt64} {deeds : List (Nat × Deed β)} :
    IsInUse id deeds ↔ id ∈ (standing deeds).map (·.id) := by
  rw [List.mem_map]
  constructor
  · rintro ⟨past, n, e, later, split, rfl, kept⟩
    exact ⟨e, mem_standing_iff.mpr ⟨past, n, later, split, kept⟩, rfl⟩
  · rintro ⟨e, mem, rfl⟩
    obtain ⟨past, n, later, split, kept⟩ := mem_standing_iff.mp mem
    exact ⟨past, n, e, later, split, rfl, kept⟩

/-- To remove a number that is not in use changes nothing. -/
theorem standing_concat_unused {id : UInt64} {deeds : List (Nat × Deed β)}
    (unused : ¬IsInUse id deeds) (n : Nat) (found : Bool) :
    standing (deeds ++ [(n, .removed id found)]) = standing deeds := by
  rw [standing_concat_removed, List.filter_eq_self]
  intro e mem
  rw [bne_iff_ne]
  rintro rfl
  exact unused (isInUse_iff.mpr (List.mem_map_of_mem mem))

namespace Recorded

variable {t : Traffic β} {deeds : List (Nat × Deed β)}

/-- Nobody is put on the list without a number of their own, so no list is longer than the numbers
that have been given. -/
theorem length_standing_le (h : Recorded t deeds) (few : (numbers deeds).length ≤ UInt64.size)
    {past later : List (Nat × Deed β)} (split : deeds = past ++ later) :
    (standing past).length ≤ (numbers deeds).length := by
  have earlier : (enlistings past).Sublist (enlistings deeds) := by
    rw [split, enlistings, enlistings, List.filterMap_append]
    exact List.sublist_append_left _ _
  have numbered : (enlistings deeds).map (·.id) ⊆ numbers deeds := by
    intro id mem
    obtain ⟨e, listed, rfl⟩ := List.mem_map.mp mem
    obtain ⟨n, own⟩ := exists_call_of_enlisted listed
    exact List.mem_filterMap.mpr
      ⟨_, mem_deedsOf.mp ((h.stories n).numbered_of_enlisted own), rfl⟩
  calc (standing past).length
      ≤ (enlistings past).length := (standing_sublist_enlistings past).length_le
    _ ≤ (enlistings deeds).length := earlier.length_le
    _ = ((enlistings deeds).map (·.id)).length := (List.length_map _).symm
    _ ≤ (numbers deeds).length := (h.enlisted few).length_le_of_subset numbered

/-- No two registrations give the same number. -/
theorem registered_unique (h : Recorded t deeds) (few : (numbers deeds).length ≤ UInt64.size)
    {n m : Nat} {e e' : Entry β} (first : t.calls[n]? = some (.registered e))
    (second : t.calls[m]? = some (.registered e')) (same : e.id = e'.id) : n = m := by
  have own {k : Nat} {e : Entry β} (stands : t.calls[k]? = some (.registered e)) :
      Deed.numbered e.id ∈ deedsOf k deeds := by
    have story := h.stories k
    rw [stands] at story
    rw [story.of_registered]
    exact List.mem_cons_self
  exact h.call_unique few (own first) (same ▸ own second)

/-- What a notification has done when it returns. -/
theorem of_notified (h : Recorded t deeds) (few : (numbers deeds).length < UInt64.size) {n : Nat}
    {report : Report} (stands : t.calls[n]? = some (.notified report)) : ∃ past later done,
      deeds = past ++ (n, .began) :: later ∧ done.map Prod.fst = standing past ∧
      deedsOf n deeds = .began :: called done ++ [.reported report] ∧
      report.delivered.toNat + report.failed.toNat = (standing past).length ∧
      report.failed.toNat = (done.map Prod.snd).countP Outcome.isBad := by
  obtain ⟨done, rfl, own, past, later, split, saw⟩ := (stands ▸ h.stories n).of_notified
  have short : done.length < UInt64.size := by
    refine Nat.lt_of_le_of_lt ?_ few
    rw [← List.length_map Prod.fst, ← saw]
    exact h.length_standing_le (Nat.le_of_lt few) split
  obtain ⟨total, bad⟩ := toNat_reportOf short
  refine ⟨past, later, done, split, saw.symm, own, ?_, bad⟩
  rw [total, saw, List.length_map]

end Recorded

/-- **A registry serves all callers**, whatever the order in which the steps of their calls come, as
long as there are numbers enough. Calls do what was asked. No two registrations give the same
number. On the list stand those that have been put on it and not been removed since, in this order
and nobody twice. A removal finds its number exactly if it is in use at that moment, and changes
nothing otherwise. Every call has the deeds that belong to it; a notification that has returned has
called everybody who stood on the list when it looked, once and in order, and its report adds up.
No call ever waits for another. A notification with all that subscribers do in the meantime, at any
depth, is such a call among others; and whatever they do, it calls everybody on the list, once and
in order, and its report adds up. -/
theorem serves_all_callers (moves : List (Move β)) :
    let t := (run moves (.start : Traffic β)).1
    let deeds := (run moves (.start : Traffic β)).2
    (numbers deeds).length < UInt64.size →
    t.calls.map Stage.request = moves.filterMap Move.request? ∧
    (∀ (n m : Nat) (e e' : Entry β), t.calls[n]? = some (.registered e) →
      t.calls[m]? = some (.registered e') → e.id = e'.id → n = m) ∧
    t.registry.entries = standing deeds ∧ (t.registry.entries.map (·.id)).Nodup ∧
    (∀ past n id found rest, deeds = past ++ (n, .removed id found) :: rest →
      (found = true ↔ IsInUse id past) ∧
      (found = false → standing (past ++ [(n, .removed id found)]) = standing past)) ∧
    (∀ n, Story (Saw deeds n) (deedsOf n deeds) t.calls[n]?) ∧
    (∀ (n : Nat) (report : Report), t.calls[n]? = some (.notified report) → ∃ past later done,
      deeds = past ++ (n, .began) :: later ∧ done.map Prod.fst = standing past ∧
      deedsOf n deeds = .began :: called done ++ [.reported report] ∧
      report.delivered.toNat + report.failed.toNat = (standing past).length ∧
      report.failed.toNat = (done.map Prod.snd).countP Outcome.isBad) ∧
    (∀ (n : Nat) (stage : Stage β), t.calls[n]? = some stage → ¬stage.HasReturned →
      ∀ outcome, ∃ deed, (t.move (.step n outcome)).2 = [(n, deed)]) ∧
    (∀ (σ : Type) (registry : σ → Registry β) (call : Entry β → σ → σ × Outcome),
      (∀ e s, Reaches (registry s) (registry (call e s).1)) → ∀ s, registry s = t.registry →
      ∃ more later, (run (.call .notify :: more) t).1 =
        ⟨registry (t.registry.notify call s).1,
          t.calls ++ .notified (t.registry.notify call s).2 :: later⟩) ∧
    ∀ (σ : Type) (call : Entry β → σ → σ × Outcome) (s : σ), ∃ done,
      t.registry.notify (Registry.tracing call) (s, []) =
        (((t.registry.notify call s).1, done), (t.registry.notify call s).2) ∧
      done.map Prod.fst = t.registry.entries ∧
      (t.registry.notify call s).2.delivered.toNat + (t.registry.notify call s).2.failed.toNat =
        t.registry.size ∧
      (t.registry.notify call s).2.failed.toNat =
        (done.map Prod.snd).countP Outcome.isBad := by
  intro t deeds few
  have recorded : Recorded t deeds := Recorded.start.run moves
  have enough := Nat.le_of_lt few
  refine ⟨requests_run moves .start, fun n m e e' => recorded.registered_unique enough,
    recorded.entries.symm, ?_, fun past n id found rest split => ?_, recorded.stories,
    fun n report => recorded.of_notified few, fun n stage stands goesOn outcome =>
      exists_deed stands goesOn outcome, fun σ registry call acts s same => ?_,
    fun σ call s => ?_⟩
  · rw [← recorded.entries]
    exact ((standing_sublist_enlistings deeds).map _).nodup (recorded.enlisted enough)
  · have use : found = true ↔ IsInUse id past :=
      (recorded.removals past n id found rest split).trans isInUse_iff.symm
    refine ⟨use, fun missed => standing_concat_unused ?_ n found⟩
    rw [← use, missed]
    exact Bool.false_ne_true
  · obtain ⟨more, later, through⟩ := exists_run_notify registry acts s t.calls
    rw [same] at through
    exact ⟨more, later, through⟩
  · obtain ⟨done, traced, everyone, report⟩ := Registry.notify_tracing call t.registry s
    have size : done.length = t.registry.size := by
      rw [← List.length_map Prod.fst, everyone]
      rfl
    have short : done.length < UInt64.size := by
      rw [size, Registry.size, ← recorded.entries]
      exact Nat.lt_of_le_of_lt
        (recorded.length_standing_le enough (List.append_nil deeds).symm) few
    obtain ⟨total, bad⟩ := toNat_reportOf short
    refine ⟨done, traced, everyone, ?_, ?_⟩
    · rw [report, total, size]
    · rw [report, bad]

/-- Two register at once, and the second is put on the list first. While a notification waits for
it, the other is removed, twice. -/
def crossing : List (Move Nat) :=
  let idle := Outcome.handled
  [.call (.register 0), .call (.register 1), .step 0 idle, .step 1 idle, .step 1 idle,
    .step 0 idle, .call .notify, .step 2 idle, .step 2 idle, .call (.deregister 1), .step 3 idle,
    .call (.deregister 1), .step 4 idle, .step 2 .failed, .step 2 idle, .step 2 .panicked,
    .step 2 idle]

/-- A subscriber that removes itself. -/
def leave (e : Entry Nat) (r : Registry Nat) : Registry Nat × Outcome :=
  ((r.deregister e.id).2, .handled)

/-- The notification calls both, though one is removed meanwhile; the first removal finds it and the
second does not. Another notification, whose subscribers remove themselves, is one more call. -/
theorem serves_all_callers_crossing :
    let t := (run crossing .start).1
    let deeds := (run crossing .start).2
    (numbers deeds).length < UInt64.size ∧
    deeds = deeds.take 6 ++ (3, .removed 1 true) :: deeds.drop 7 ∧ IsInUse 1 (deeds.take 6) ∧
    deeds = deeds.take 7 ++ (4, .removed 1 false) :: deeds.drop 8 ∧ ¬IsInUse 1 (deeds.take 7) ∧
    t.calls[2]? = some (.notified ⟨0, 2⟩) ∧
    (∃ past later, deeds = past ++ (2, .began) :: later ∧ 0 + 2 = (standing past).length) ∧
    (∀ e r, Reaches r (leave e r).1) ∧
    ∃ more later, (run (.call .notify :: more) t).1 =
      ⟨(t.registry.notify leave t.registry).1,
        t.calls ++ .notified (t.registry.notify leave t.registry).2 :: later⟩ := by
  have few : (numbers (run crossing .start).2).length < UInt64.size := by decide
  have first : (run crossing .start).2 = (run crossing .start).2.take 6 ++
      (3, .removed 1 true) :: (run crossing .start).2.drop 7 := rfl
  have second : (run crossing .start).2 = (run crossing .start).2.take 7 ++
      (4, .removed 1 false) :: (run crossing .start).2.drop 8 := rfl
  have returned : (run crossing .start).1.calls[2]? = some (.notified ⟨0, 2⟩) := rfl
  have acts : ∀ e r, Reaches r (leave e r).1 := fun e r => reaches_deregister e.id r
  obtain ⟨-, -, -, -, removals, -, reports, -, nested, -⟩ := serves_all_callers crossing few
  obtain ⟨past, later, done, split, -, -, total, -⟩ := reports 2 ⟨0, 2⟩ returned
  have found := (removals _ 3 1 true _ first).1
  have missed := (removals _ 4 1 false _ second).1
  exact ⟨few, first, found.mp rfl, second, fun use => Bool.false_ne_true (missed.mpr use), returned,
    ⟨past, later, split, total⟩, acts, nested _ id leave acts _ rfl⟩

end Traffic

end HexWorld
