import HexWorld.Proofs.Sync.Step
import HexWorld.Proofs.World.Snapshot

/-!
# `Proofs.Sync.Run` — runs of the machine

A run is any sequence of polls, with whatever events and stop requests, and of changes that others
make between two polls: registrations, removals, and changes of what subscribers remember. All the
effects of a run, in order, are its log; what a run has published is read off its log.

## Contents
- `Move`, `Supervisor.move`, `Supervisor.run`, with `run_append`.
- `run_induction`: what holds at the start and is kept by every move holds after every run.
- `trace`, what is told about a run move by move, with `trace_induction`.
- `move_cases`, and `published_move`: what holds of everything that is published.
- `stored`, the snapshots that a log stores, `begun`, how many sessions it begins, and `historyOf`,
  what each of them stores.
- Settings, moves and messages of plain runs, for examples.
-/

namespace HexWorld

/-! ## Logs -/

/-- The snapshot that an effect puts into the store. -/
def Effect.stored? : Effect → Option Snapshot
  | .store s => some s
  | _ => none

def Effect.isConnect : Effect → Bool
  | .connect => true
  | _ => false

/-- How many sessions a log begins: each begins by opening a connection. -/
def begun (log : List Effect) : Nat :=
  log.countP Effect.isConnect

/-- The snapshots that a log stores, in order. -/
def stored (log : List Effect) : List Snapshot :=
  log.filterMap Effect.stored?

/-- The same, each snapshot with the number of sessions begun by then; `n` were begun before. -/
def storedSince (n : Nat) : List Effect → List (Nat × Snapshot)
  | [] => []
  | e :: rest =>
    match e with
    | .connect => storedSince (n + 1) rest
    | .store s => (n, s) :: storedSince n rest
    | _ => storedSince n rest

/-- What the `k`-th session of a log stores. -/
def historyOf (k : Nat) (log : List Effect) : List Snapshot :=
  ((storedSince 0 log).filter (·.1 = k)).map (·.2)

theorem begun_append (log later : List Effect) : begun (log ++ later) = begun log + begun later :=
  List.countP_append

theorem stored_append (log later : List Effect) :
    stored (log ++ later) = stored log ++ stored later :=
  List.filterMap_append

theorem stored_concat_of_none {e : Effect} (h : e.stored? = none) (log : List Effect) :
    stored (log ++ [e]) = stored log := by
  rw [stored_append, stored, stored, List.filterMap_cons_none h]
  exact List.append_nil _

theorem storedSince_append (n : Nat) (log later : List Effect) :
    storedSince n (log ++ later) = storedSince n log ++ storedSince (n + begun log) later := by
  induction log generalizing n with
  | nil => rfl
  | cons e rest ih =>
      cases e with
      | connect =>
          -- The session that begins here counts for all that follows, on both sides.
          have counted : begun (.connect :: rest) = begun rest + 1 := List.countP_cons_of_pos rfl
          rw [counted, show n + (begun rest + 1) = n + 1 + begun rest by omega]
          exact ih (n + 1)
      | store s => exact congrArg ((n, s) :: ·) (ih n)
      | phase | notify | sleep => exact ih n

theorem historyOf_append (k : Nat) (log later : List Effect) :
    historyOf k (log ++ later) =
      historyOf k log ++ ((storedSince (begun log) later).filter (·.1 = k)).map (·.2) := by
  unfold historyOf
  rw [storedSince_append, Nat.zero_add, List.filter_append, List.map_append]

theorem mem_historyOf {k : Nat} {log : List Effect} {s : Snapshot} :
    s ∈ historyOf k log ↔ (k, s) ∈ storedSince 0 log := by
  unfold historyOf
  constructor
  · intro h
    obtain ⟨⟨n, a⟩, hp, rfl⟩ := List.mem_map.mp h
    obtain ⟨mem, own⟩ := List.mem_filter.mp hp
    exact of_decide_eq_true own ▸ mem
  · intro h
    exact List.mem_map.mpr ⟨(k, s), List.mem_filter.mpr ⟨h, decide_eq_true rfl⟩, rfl⟩

theorem map_storedSince (n : Nat) (log : List Effect) :
    (storedSince n log).map (·.2) = stored log := by
  induction log generalizing n with
  | nil => rfl
  | cons e rest ih =>
      cases e with
      | connect => exact ih (n + 1)
      | store s => exact congrArg (s :: ·) (ih n)
      | phase | notify | sleep => exact ih n

/-- The number that goes with a stored snapshot is none of a session still to come. -/
theorem le_of_mem_storedSince {n : Nat} {log : List Effect} {p : Nat × Snapshot}
    (h : p ∈ storedSince n log) : p.1 ≤ n + begun log := by
  induction log generalizing n with
  | nil => cases h
  | cons e rest ih =>
      have more : begun rest ≤ begun (e :: rest) :=
        List.Sublist.countP_le (List.sublist_cons_self e rest)
      cases e with
      | connect =>
          have counted : begun (.connect :: rest) = begun rest + 1 := List.countP_cons_of_pos rfl
          have late : p.1 ≤ n + 1 + begun rest := ih h
          omega
      | store s =>
          rcases List.mem_cons.mp h with rfl | h
          · exact Nat.le_add_right n _
          · exact Nat.le_trans (ih h) (Nat.add_le_add_left more n)
      | phase | notify | sleep => exact Nat.le_trans (ih h) (Nat.add_le_add_left more n)

theorem storedSince_of_isQuiet {effects : List Effect} (h : ∀ e ∈ effects, e.IsQuiet) (n : Nat) :
    storedSince n effects = [] := by
  induction effects with
  | nil => rfl
  | cons e rest ih =>
      have quiet := h e List.mem_cons_self
      have tail := ih fun d hd => h d (List.mem_cons_of_mem e hd)
      cases e with
      | phase | sleep => exact tail
      | connect | store | notify => exact quiet.elim

theorem begun_of_isQuiet {effects : List Effect} (h : ∀ e ∈ effects, e.IsQuiet) :
    begun effects = 0 := by
  unfold begun
  rw [List.countP_eq_zero]
  intro e he
  have quiet := h e he
  cases e with
  | phase | sleep => exact Bool.false_ne_true
  | connect | store | notify => exact quiet.elim

namespace Supervisor

variable {β τ : Type}

/-! ## Moves and runs -/

/-- What happens to a machine: a poll, or something that others do between two polls. -/
inductive Move (β τ : Type) where
  | poll (stopping : Bool) (ready : Option Event)
  | register (subscriber : β)
  | deregister (id : UInt64)
  | remember (change : τ → τ)

/-- A message of the subscription comes. -/
def Move.hear (m : EntitiesMessage) : Move β τ :=
  .poll false (some (.item (some (.ok m))))

/-- The machine with other subscribers. -/
def withRegistry (registry : Registry β) (s : Supervisor β τ) : Supervisor β τ :=
  { s with hub := { s.hub with registry } }

/-- One move, with what the machine does. -/
def move (settings : SyncSettings) (subscription : Subscription β τ) (s : Supervisor β τ) :
    Move β τ → Supervisor β τ × List Effect
  | .poll stopping ready => s.poll settings subscription stopping ready
  | .register subscriber => (s.withRegistry (s.hub.registry.register subscriber).2, [])
  | .deregister id => (s.withRegistry (s.hub.registry.deregister id).2, [])
  | .remember change => ({ s with hub := { s.hub with memory := change s.hub.memory } }, [])

/-- A run from a machine: where it leads, and its log. -/
def run (settings : SyncSettings) (subscription : Subscription β τ) :
    List (Move β τ) → Supervisor β τ → Supervisor β τ × List Effect
  | [], s => (s, [])
  | m :: rest, s =>
    let (s, effects) := s.move settings subscription m
    let (s, log) := run settings subscription rest s
    (s, effects ++ log)

variable {settings : SyncSettings} {subscription : Subscription β τ}

theorem run_cons (m : Move β τ) (rest : List (Move β τ)) (s : Supervisor β τ) :
    run settings subscription (m :: rest) s =
      ((run settings subscription rest (s.move settings subscription m).1).1,
        (s.move settings subscription m).2 ++
          (run settings subscription rest (s.move settings subscription m).1).2) := rfl

/-- A run in two parts goes on where the first part leads. -/
theorem run_append (earlier later : List (Move β τ)) (s : Supervisor β τ) :
    run settings subscription (earlier ++ later) s =
      ((run settings subscription later (run settings subscription earlier s).1).1,
        (run settings subscription earlier s).2 ++
          (run settings subscription later (run settings subscription earlier s).1).2) := by
  induction earlier generalizing s with
  | nil => rfl
  | cons m rest ih => rw [List.cons_append, run_cons, ih, run_cons, List.append_assoc]

/-- What holds of a machine without a log, and is kept by every move, holds after every run. -/
theorem run_induction {P : Supervisor β τ → List Effect → Prop} {s : Supervisor β τ}
    (start : P s [])
    (step : ∀ s log m, P s log →
      P (s.move settings subscription m).1 (log ++ (s.move settings subscription m).2))
    (moves : List (Move β τ)) :
    P (run settings subscription moves s).1 (run settings subscription moves s).2 := by
  -- The claim is generalised to the log of what came before.
  suffices h : ∀ (s : Supervisor β τ) (log : List Effect), P s log →
      P (run settings subscription moves s).1 (log ++ (run settings subscription moves s).2) by
    simpa using h s [] start
  intro s log hs
  induction moves generalizing s log with
  | nil =>
      show P s (log ++ [])
      rw [List.append_nil]
      exact hs
  | cons m rest ih =>
      rw [run_cons, ← List.append_assoc]
      exact ih _ _ (step s log m hs)

/-! ## Traces -/

section Trace

variable {α : Type}

/-- What is told about a run, move by move. -/
def trace (settings : SyncSettings) (subscription : Subscription β τ)
    (tell : Supervisor β τ → Move β τ → List α) : List (Move β τ) → Supervisor β τ → List α
  | [], _ => []
  | m :: rest, s =>
    tell s m ++ trace settings subscription tell rest (s.move settings subscription m).1

variable {tell : Supervisor β τ → Move β τ → List α}

/-- What holds before anything has been told, and is kept by each of the moves, holds after the
run. -/
theorem trace_induction {P : Supervisor β τ → List Effect → List α → Prop} {s : Supervisor β τ}
    {moves : List (Move β τ)} (start : P s [] [])
    (step : ∀ s log told, ∀ m ∈ moves, P s log told →
      P (s.move settings subscription m).1 (log ++ (s.move settings subscription m).2)
        (told ++ tell s m)) :
    P (run settings subscription moves s).1 (run settings subscription moves s).2
      (trace settings subscription tell moves s) := by
  -- As above, the claim is generalised to what came before.
  suffices h : ∀ (s : Supervisor β τ) (log : List Effect) (told : List α), P s log told →
      P (run settings subscription moves s).1 (log ++ (run settings subscription moves s).2)
        (told ++ trace settings subscription tell moves s) by
    simpa using h s [] [] start
  intro s log told hs
  induction moves generalizing s log told with
  | nil =>
      show P s (log ++ []) (told ++ [])
      rw [List.append_nil, List.append_nil]
      exact hs
  | cons m rest ih =>
      have next := step s log told m List.mem_cons_self hs
      rw [run_cons, trace, ← List.append_assoc, ← List.append_assoc]
      exact ih (fun s log told m hm => step s log told m (List.mem_cons_of_mem _ hm)) _ _ _ next

end Trace

variable (settings subscription) in
/-- A move is quiet, or it is a poll that begins a session or publishes a snapshot. -/
theorem move_cases (s : Supervisor β τ) (m : Move β τ) :
    let r := s.move settings subscription m
    Quietly s r ∨ r = s.beginSession ∨
    (s.position.IsOpening ∧ ∃ rooms layout b, Bootstrap.ofReplies rooms layout = .ok b ∧
      r = s.publishFirst b) ∨
    ∃ current message update next, s.position = .streaming current ∧
      Update.ofMessage message = .ok update ∧ current.apply update = .ok next ∧
      r = s.accept subscription next := by
  cases m with
  | poll stopping ready =>
      have step : Step settings subscription s stopping ready
          (s.poll settings subscription stopping ready) := step_poll stopping ready
      rcases publication_cases step with
        quiet | connect | ⟨rooms, result, layout, b, position, -, valid, -, -, eq⟩ |
        ⟨current, m, update, next, position, valid, applied, -, eq⟩
      · exact .inl quiet
      · exact .inr (.inl connect)
      · refine .inr (.inr (.inl ⟨?_, rooms, layout, b, valid, eq⟩))
        rw [position]
        trivial
      · exact .inr (.inr (.inr ⟨current, m, update, next, position, valid, applied, eq⟩))
  | register | deregister | remember =>
      exact .inl ⟨List.forall_mem_nil _, rfl, rfl, fun _ h => h, fun h => h⟩

/-- The layout that the machine is given in a move. -/
def Move.layout? : Move β τ → Option LayoutReply
  | .poll _ (some (.placed (.answered (.ok reply)))) => some reply
  | _ => none

variable (settings subscription) in
/-- What holds of every first snapshot and is kept by updates holds of whatever is published in a
move, and of the snapshot that the session goes on from. -/
theorem published_move {P : Snapshot → Prop} {s : Supervisor β τ}
    (going : ∀ a, s.position.current? = some a → P a) (m : Move β τ)
    (first : ∀ rooms reply b, m.layout? = some reply → Bootstrap.ofReplies rooms reply = .ok b →
      P { Snapshot.initial b with session := s.session })
    (next : ∀ a update, P a → a.Declares update → P (a.after update)) :
    let r := s.move settings subscription m
    (∀ a, r.1.position.current? = some a → P a) ∧ ∀ a ∈ stored r.2, P a := by
  intro r
  have quietly (quiet : Quietly s r) :
      (∀ a, r.1.position.current? = some a → P a) ∧ ∀ a ∈ stored r.2, P a := by
    refine ⟨fun a h => going a (quiet.position a h), ?_⟩
    rw [← map_storedSince 0, storedSince_of_isQuiet quiet.effects]
    exact List.forall_mem_nil _
  cases m with
  | poll stopping ready =>
      have step : Step settings subscription s stopping ready r := step_poll stopping ready
      rcases publication_cases step with
        quiet | connect | ⟨rooms, result, reply, b, -, answered, accepted, -, rfl, publication⟩ |
        ⟨current, message, update, after, position, -, applied, -, publication⟩
      · exact quietly quiet
      · rw [connect]
        exact ⟨nofun, List.forall_mem_nil _⟩
      · have given : Move.layout? (.poll stopping (some (.placed result)) : Move β τ) =
            some reply := by
          cases result with
          | answered result =>
              cases answered
              rfl
          | elapsed => cases answered
        have holds := first rooms reply b given accepted
        rw [publication]
        exact ⟨fun a h => Option.some.inj h ▸ holds, List.forall_mem_singleton.mpr holds⟩
      · obtain ⟨-, declared, rfl⟩ := Snapshot.apply_eq_ok_iff.mp applied
        have holds := next current update (going current (by rw [position]; rfl)) declared
        rw [publication]
        exact ⟨fun a h => Option.some.inj h ▸ holds, List.forall_mem_singleton.mpr holds⟩
  | register | deregister | remember =>
      exact quietly ⟨List.forall_mem_nil _, rfl, rfl, fun _ h => h, fun h => h⟩

/-! ## Plain runs -/

/-- Settings under which every failure is waited out and no wait is cut. -/
def plainSettings : SyncSettings :=
  ⟨⟨.ofMillis 1000, .ofMillis 10000, none, default⟩, .ofMillis 5000⟩

/-- Nobody is called. -/
def noSubscription : Subscription Unit Unit :=
  fun _ _ _ state => (state, .handled)

/-- A session with these rooms, from the connection to the subscription. -/
def opening (rooms : List Axial) : List (Move β τ) :=
  [.poll false none, .poll false (some (.connected (.answered (.ok ())))),
    .poll false (some (.listed (.answered (.ok ⟨rooms⟩)))),
    .poll false (some (.placed (.answered (.ok ⟨[]⟩)))),
    .poll false (some (.subscribed (.answered (.ok ()))))]

/-- A message about one room. -/
def tick (worldTime : UInt64) (room : Axial) (bots : List Bot) : EntitiesMessage :=
  ⟨worldTime, [⟨room, bots⟩], [], [], none⟩

end Supervisor
end HexWorld
