import HexWorld.Proofs.Sync.Run
import HexWorld.Proofs.World.Snapshot
import HexWorld.Proofs.World.Update

/-!
# `Proofs.Sync.Chronicle` — the snapshots that supervision stores

Whatever the source does, the snapshots stored during a run form a chronicle: session by session,
each session first the bare description of the world and then one snapshot for each update, at ever
later times. The proof carries one invariant, `Chronicle`, along the run. It ties the machine to its
log: what the machine holds as the latest snapshot of its session is what the log stored last.

## Contents
- `IsSession`: what the snapshots of one session look like.
- `Chronicle`, with one lemma for each way in which a move can publish.
- `chronicle_run`: the invariant holds after every run.
- `stored_chronicle`: the statement about the log alone, and about readers of the store.
-/

namespace HexWorld

/-! ## One session -/

/-- What the snapshots of a session look like, from the first to the last. -/
structure IsSession (history : List Snapshot) : Prop where
  first : ∀ s ∈ history.head?, s.worldTime = -1 ∧ s.entities = none ∧ s.diagnostics = none
  later : ∀ s ∈ history.tail, s.entities.isSome ∧ 0 ≤ s.worldTime
  topology : ∀ s ∈ history, ∀ f ∈ history.head?, s.topology = f.topology
  increasing : history.Pairwise fun a b => a.worldTime < b.worldTime

namespace IsSession

theorem nil : IsSession [] where
  first _ h := by cases h
  later _ h := by cases h
  topology _ h := by cases h
  increasing := .nil

/-- The first snapshot of a session is the bare description of the world. -/
theorem initial (b : Bootstrap) (session : UInt64) :
    IsSession [{ Snapshot.initial b with session }] where
  first s h := by
    cases h
    exact ⟨rfl, rfl, rfl⟩
  later _ h := by cases h
  topology s hs f hf := by
    cases List.mem_singleton.mp hs
    cases hf
    rfl
  increasing := List.pairwise_singleton _ _

/-- An update that follows the last snapshot adds one. -/
theorem snoc {history : List Snapshot} {current : Snapshot} {update : Update}
    (h : IsSession history) (last : history.getLast? = some current)
    (newer : current.worldTime < update.worldTime) (tick : 0 ≤ update.worldTime) :
    IsSession (history ++ [current.after update]) := by
  obtain ⟨f, rest, rfl⟩ : ∃ f rest, history = f :: rest := by
    cases history with
    | nil => cases last
    | cons f rest => exact ⟨f, rest, rfl⟩
  have mem : current ∈ f :: rest := List.mem_of_getLast? last
  refine ⟨h.first, forall_mem_concat h.later ⟨rfl, tick⟩, ?_, ?_⟩
  · exact forall_mem_concat h.topology fun g hg => h.topology current mem g hg
  · refine pairwise_concat h.increasing fun a ha => ?_
    -- Anything before the last snapshot is earlier than it already.
    rcases rel_or_eq_of_getLast? h.increasing last ha with earlier | rfl
    · exact Int64.lt_trans earlier newer
    · exact newer

end IsSession

namespace Supervisor

variable {β τ : Type} {settings : SyncSettings} {subscription : Subscription β τ}

/-! ## The invariant -/

/-- The machine and its log fit together, and the log is in order. -/
structure Chronicle (s : Supervisor β τ) (log : List Effect) : Prop where
  /-- Sessions are numbered from one. -/
  session : s.session.toNat = begun log
  /-- The store holds what was stored last. -/
  current : s.hub.current = (stored log).getLast?
  numbered : ∀ p ∈ storedSince 0 log, p.2.session.toNat = p.1
  ordered : (stored log).Pairwise Snapshot.Before
  sound : ∀ a ∈ stored log, a.IsSound
  sessions : ∀ k, IsSession (historyOf k log)
  /-- A session that has not described the world yet has stored nothing. -/
  opening : s.position.IsOpening → historyOf (begun log) log = []
  /-- A session that goes on has stored the snapshot it goes on from. -/
  position : ∀ c, s.position.current? = some c →
    (historyOf (begun log) log).getLast? = some c ∧ (stored log).getLast? = some c ∧
      c.session = s.session

namespace Chronicle

variable {s : Supervisor β τ} {log : List Effect}

theorem start (words : List UInt64) (memory : τ) :
    Chronicle (Supervisor.start words memory : Supervisor β τ) [] where
  session := rfl
  current := rfl
  numbered _ h := by cases h
  ordered := .nil
  sound _ h := by cases h
  sessions _ := .nil
  opening h := h.elim
  position _ h := by cases h

/-- A reaction that stores nothing keeps the chronicle if it keeps count of the sessions. -/
theorem silent {r : Supervisor β τ × List Effect} (h : Chronicle s log)
    (none : ∀ n, storedSince n r.2 = []) (session : r.1.session.toNat = begun (log ++ r.2))
    (current : r.1.hub.current = s.hub.current)
    (opening : r.1.position.IsOpening → historyOf (begun (log ++ r.2)) log = [])
    (position : ∀ c, r.1.position.current? = some c →
      (historyOf (begun (log ++ r.2)) log).getLast? = some c ∧ (stored log).getLast? = some c ∧
        c.session = r.1.session) :
    Chronicle r.1 (log ++ r.2) := by
  have same_history (k : Nat) : historyOf k (log ++ r.2) = historyOf k log := by
    rw [historyOf_append, none]
    exact List.append_nil _
  have same_stored : stored (log ++ r.2) = stored log := by
    rw [stored_append, ← map_storedSince 0 r.2, none]
    exact List.append_nil _
  refine ⟨session, ?_, ?_, ?_, ?_, ?_, ?_, ?_⟩
  · rw [current, same_stored]
    exact h.current
  · rw [storedSince_append, none, List.append_nil]
    exact h.numbered
  · rw [same_stored]
    exact h.ordered
  · rw [same_stored]
    exact h.sound
  · intro k
    rw [same_history]
    exact h.sessions k
  · rw [same_history]
    exact opening
  · rw [same_history, same_stored]
    exact position

theorem quiet {r : Supervisor β τ × List Effect} (h : Chronicle s log) (q : Quietly s r) :
    Chronicle r.1 (log ++ r.2) := by
  have same_count : begun (log ++ r.2) = begun log := by
    rw [begun_append, begun_of_isQuiet q.effects, Nat.add_zero]
  refine h.silent (storedSince_of_isQuiet q.effects) ?_ q.current ?_ ?_
  · rw [q.session, same_count]
    exact h.session
  · rw [same_count]
    exact fun opening => h.opening (q.opening opening)
  · rw [same_count, q.session]
    exact fun c hc => h.position c (q.position c hc)

/-- Sessions are counted exactly as long as their number fits. -/
theorem beginSession (h : Chronicle s log) (fits : begun (log ++ s.beginSession.2) < UInt64.size) :
    Chronicle s.beginSession.1 (log ++ s.beginSession.2) := by
  have counted : begun (log ++ s.beginSession.2) = begun log + 1 := begun_append log [.connect]
  rw [counted] at fits
  refine h.silent (fun _ => rfl) ?_ rfl ?_ ?_
  · rw [counted]
    show (Saturating.next64 s.session).toNat = begun log + 1
    have below : s.session ≠ UInt64.ofNat (UInt64.size - 1) := by
      intro max
      have value := congrArg UInt64.toNat max
      have top : (UInt64.ofNat (UInt64.size - 1)).toNat = UInt64.size - 1 := rfl
      rw [h.session, top] at value
      omega
    rw [Saturating.next64, if_neg below, UInt64.toNat_add, h.session]
    exact Nat.mod_eq_of_lt fits
  · intro _
    rw [counted]
    -- Everything stored so far belongs to a session begun earlier.
    unfold historyOf
    rw [List.map_eq_nil_iff, List.filter_eq_nil_iff]
    intro p hp again
    have old := le_of_mem_storedSince hp
    have number := of_decide_eq_true again
    omega
  · intro c hc
    cases hc

/-- A reaction that stores one snapshot keeps the chronicle if the snapshot goes on with the
session and comes after all others. -/
theorem publishes {r : Supervisor β τ × List Effect} {a : Snapshot} (h : Chronicle s log)
    (one : ∀ n, storedSince n r.2 = [(n, a)]) (same_count : begun (log ++ r.2) = begun log)
    (session : r.1.session = s.session) (number : a.session = s.session)
    (current : r.1.hub.current = some a) (going : r.1.position.current? = some a)
    (described : ¬r.1.position.IsOpening) (newest : ∀ b ∈ stored log, b.Before a)
    (sound : a.IsSound) (next : IsSession (historyOf (begun log) log ++ [a])) :
    Chronicle r.1 (log ++ r.2) := by
  have own_history : historyOf (begun log) (log ++ r.2) = historyOf (begun log) log ++ [a] := by
    rw [historyOf_append, one]
    simp
  have all_stored : stored (log ++ r.2) = stored log ++ [a] := by
    rw [stored_append, ← map_storedSince 0 r.2, one]
    rfl
  refine ⟨?_, ?_, ?_, ?_, ?_, ?_, fun opening => absurd opening described, ?_⟩
  · rw [session, same_count]
    exact h.session
  · rw [current, all_stored, List.getLast?_concat]
  · rw [storedSince_append, one, Nat.zero_add]
    refine forall_mem_concat h.numbered ?_
    rw [number]
    exact h.session
  · rw [all_stored]
    exact pairwise_concat h.ordered newest
  · rw [all_stored]
    exact forall_mem_concat h.sound sound
  · intro k
    by_cases own : k = begun log
    · rw [own, own_history]
      exact next
    · rw [historyOf_append, one]
      have other : ([(begun log, a)].filter (·.1 = k)).map (·.2) = [] := by simp [Ne.symm own]
      rw [other, List.append_nil]
      exact h.sessions k
  · intro c hc
    rw [going] at hc
    cases hc
    rw [same_count, own_history, all_stored, session]
    exact ⟨List.getLast?_concat, List.getLast?_concat, number⟩

theorem publishFirst {b : Bootstrap} (h : Chronicle s log) (opening : s.position.IsOpening)
    (sound : b.IsSound) : Chronicle (s.publishFirst b).1 (log ++ (s.publishFirst b).2) := by
  have none_yet := h.opening opening
  refine h.publishes (fun _ => rfl) (begun_append log _) rfl rfl rfl rfl id ?_
    (Snapshot.isSound_initial sound s.session) ?_
  · intro a ha
    rw [← map_storedSince 0 log] at ha
    obtain ⟨p, hp, rfl⟩ := List.mem_map.mp ha
    -- The session has stored nothing, so what has been stored has a smaller number.
    have other : p.1 ≠ begun log := by
      intro own
      have mem : p.2 ∈ historyOf (begun log) log := mem_historyOf.mpr (own ▸ hp)
      rw [none_yet] at mem
      cases mem
    have old := le_of_mem_storedSince hp
    refine .inl ?_
    show p.2.session < s.session
    rw [UInt64.lt_iff_toNat_lt, h.numbered p hp, h.session]
    omega
  · rw [none_yet]
    exact IsSession.initial b s.session

theorem accept {current : Snapshot} {m : EntitiesMessage} {update : Update}
    (h : Chronicle s log) (position : s.position = .streaming current)
    (valid : Update.ofMessage m = .ok update) (newer : current.worldTime < update.worldTime)
    (declared : current.Declares update) :
    Chronicle (s.accept subscription (current.after update)).1
      (log ++ (s.accept subscription (current.after update)).2) := by
  obtain ⟨own, latest, number⟩ := h.position current (by rw [position]; rfl)
  have sound := h.sound current (List.mem_of_getLast? latest)
  have tick : 0 ≤ update.worldTime := by
    rw [Int64.le_iff_toInt_le, Update.worldTime_of_ofMessage valid]
    exact Int.natCast_nonneg _
  refine h.publishes (fun _ => rfl) (begun_append log _) rfl number rfl rfl id ?_
    (sound.after declared) ((h.sessions _).snoc own newer tick)
  intro a ha
  have follows : current.Before (current.after update) := Snapshot.before_after newer
  rcases rel_or_eq_of_getLast? h.ordered latest ha with earlier | rfl
  · exact earlier.trans follows
  · exact follows

end Chronicle

/-! ## Runs -/

/-- **The chronicle of a run** with fewer sessions than there are numbers for them. -/
theorem chronicle_run (settings : SyncSettings) (subscription : Subscription β τ)
    (words : List UInt64) (memory : τ) (moves : List (Move β τ)) :
    let r := run settings subscription moves (start words memory)
    begun r.2 < UInt64.size → Chronicle r.1 r.2 := by
  refine run_induction (P := fun s log => begun log < UInt64.size → Chronicle s log)
    (fun _ => .start words memory) ?_ moves
  intro s log m ih fits
  -- Sessions that can be numbered after the move could be numbered before it.
  have grown := begun_append log (s.move settings subscription m).2
  have h : Chronicle s log := ih (by omega)
  rcases move_cases settings subscription s m with
    quiet | connect | ⟨opening, rooms, layout, b, valid, first⟩ |
    ⟨current, message, update, next, position, valid, applied, accepted⟩
  · exact h.quiet quiet
  · rw [connect] at fits ⊢
    exact h.beginSession fits
  · rw [first]
    exact h.publishFirst opening (Bootstrap.isSound_of_ofReplies valid)
  · rw [accepted]
    obtain ⟨newer, declared, rfl⟩ := Snapshot.apply_eq_ok_iff.mp applied
    exact h.accept position valid newer declared

/-- Every snapshot is stored in the session whose number it bears. -/
theorem Chronicle.mem_historyOf_session {s : Supervisor β τ} {log : List Effect}
    (h : Chronicle s log) {a : Snapshot} (ha : a ∈ stored log) :
    a ∈ historyOf a.session.toNat log := by
  rw [← map_storedSince 0 log] at ha
  obtain ⟨p, hp, rfl⟩ := List.mem_map.mp ha
  rw [mem_historyOf, h.numbered p hp]
  exact hp

/-- What a reader finds is never older than what was found before. -/
theorem Chronicle.reads {s r : Supervisor β τ} {log later : List Effect}
    (h : Chronicle s log) (h' : Chronicle r (log ++ later)) {a : Snapshot}
    (found : s.hub.current = some a) :
    ∃ b, r.hub.current = some b ∧ (a = b ∨ a.Before b) := by
  have latest : (stored log).getLast? = some a := h.current ▸ found
  obtain ⟨front, split⟩ := List.getLast?_eq_some_iff.mp latest
  have all := h'.current
  have sorted := h'.ordered
  rw [stored_append] at all sorted
  cases last : (stored later).getLast? with
  | none =>
      rw [List.getLast?_eq_none_iff.mp last, List.append_nil, latest] at all
      exact ⟨a, all, .inl rfl⟩
  | some b =>
      rw [List.getLast?_append, last] at all
      refine ⟨b, all, .inr ?_⟩
      rw [List.pairwise_append] at sorted
      exact sorted.2.2 a (List.mem_of_getLast? latest) b (List.mem_of_getLast? last)

/-- **The snapshots stored during a run**, whatever the source does, whatever others do meanwhile,
and whenever a stop is requested. Each session stores its description of the world and then one
snapshot for each accepted update; the stored snapshots come one before the other, within a session
and from one to the next; and the store, which holds the last of them, is never seen to go back. -/
theorem stored_chronicle (settings : SyncSettings) (subscription : Subscription β τ)
    (words : List UInt64) (memory : τ) (moves : List (Move β τ))
    (fits : begun (run settings subscription moves (start words memory)).2 < UInt64.size) :
    let r := run settings subscription moves (start words memory)
    (∀ k, IsSession (historyOf k r.2) ∧ ∀ a ∈ historyOf k r.2, a.session.toNat = k) ∧
    (∀ a ∈ stored r.2, a ∈ historyOf a.session.toNat r.2 ∧ a.IsSound) ∧
    (stored r.2).Pairwise Snapshot.Before ∧
    r.1.hub.current = (stored r.2).getLast? ∧
    ∀ earlier later, moves = earlier ++ later →
      ∀ a, (run settings subscription earlier (start words memory)).1.hub.current = some a →
        ∃ b, r.1.hub.current = some b ∧ (a = b ∨ a.Before b) := by
  intro r
  have h : Chronicle r.1 r.2 := chronicle_run settings subscription words memory moves fits
  refine ⟨?_, fun a ha => ⟨h.mem_historyOf_session ha, h.sound a ha⟩, h.ordered, h.current, ?_⟩
  · intro k
    exact ⟨h.sessions k, fun a ha => h.numbered (k, a) (mem_historyOf.mp ha)⟩
  · -- What a reader has found is what the earlier part of the run stored last.
    rintro earlier later rfl a found
    have split : r = run settings subscription (earlier ++ later) (start words memory) := rfl
    rw [run_append] at split
    have grown := congrArg (fun p => begun p.2) split
    simp only [begun_append] at grown
    have fits : begun r.2 < UInt64.size := fits
    have before := chronicle_run settings subscription words memory earlier (by omega)
    rw [split] at h ⊢
    exact before.reads h found

/-! ### A run of two sessions -/

/-- The first session hears two messages, the second of them late, and is cut off; the second
session starts over with an earlier clock. -/
def twoSessions : List (Move Unit Unit) :=
  .poll false none :: opening [⟨0, 0⟩] ++
    [.hear (tick 5 ⟨0, 0⟩ []), .hear (tick 4 ⟨0, 0⟩ []), .poll false (some (.item none)),
      .poll false (some .woken)] ++
    opening [⟨0, 0⟩, ⟨1, 0⟩] ++ [.hear (tick 3 ⟨1, 0⟩ [])]

theorem stored_chronicle_two_sessions :
    let r := run plainSettings noSubscription twoSessions (start [] ())
    begun r.2 < UInt64.size ∧
    (stored r.2).map (fun a => (a.session, a.worldTime)) = [(1, -1), (1, 5), (2, -1), (2, 3)] ∧
    IsSession (historyOf 1 r.2) ∧ IsSession (historyOf 2 r.2) ∧
    (stored r.2).Pairwise Snapshot.Before := by
  intro r
  have fits : begun r.2 < UInt64.size := by decide +kernel
  have h := stored_chronicle plainSettings noSubscription [] () twoSessions fits
  exact ⟨fits, by decide +kernel, (h.1 1).1, (h.1 2).1, h.2.2.1⟩

end Supervisor
end HexWorld
