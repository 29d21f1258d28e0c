import HexWorld.Proofs.Relay.Reaction
import HexWorld.Proofs.Sync.Run
import HexWorld.Rehearsal.Audience

/-!
# `Proofs.Relay.Observation` — a writer, a store and one connection, step by step

The writer decides on its effects in one poll, but others see them one by one: a snapshot is in the
store before it is relayed. A connection takes a wake, and handles it later; it sends terrain, and
reads the store later still. An `Observation` has a place for everything that can be between two
such steps, and its actions may come in any order.

## Contents
- `Sent`, `views` and `shown`: what a connection has been sent, and from which snapshots.
- `Observation`, `Action`, `Observation.step`, `Observation.after`.
- `Happens` and `happens_step`: everything one action can do.
- `Pending` and `Coherent`: how the effects still to be done fit the store, and the wake in hand the
  connection.
- `Sourced`: what has been sent was made from a snapshot.
- `writes`: actions of the writer alone, for examples.
-/

namespace HexWorld

/-! ## What has been sent -/

/-- Something that was sent, with the snapshot that it was made from, if it was made from one. -/
structure Sent where
  out : Outbound
  source : Option Snapshot
  deriving DecidableEq

/-- The entities that were sent, in order. -/
def views (log : List Sent) : List RoomObjects :=
  log.filterMap (·.out.view?)

/-- The snapshot whose entities were sent. -/
def Sent.shown? (s : Sent) : Option Snapshot :=
  if s.out.view?.isSome then s.source else none

/-- The snapshots whose entities were sent, in order. -/
def shown (log : List Sent) : List Snapshot :=
  log.filterMap Sent.shown?

/-- The snapshot that a wake is answered from. -/
def Wake.source (published : Option Snapshot) (w : Wake) : Option Snapshot :=
  w.snapshot?.or published

/-- The effect neither stores nor relays. -/
def Effect.isPrivate : Effect → Bool
  | .store _ | .notify .. => false
  | _ => true

/-! ## Observations -/

/-- A writer, the store that others read, and one connection. -/
structure Observation (β τ : Type) where
  writer : Supervisor β τ
  /-- The effects that the writer has done. -/
  done : List Effect
  /-- The effects that it has decided on and not done yet. -/
  undone : List Effect
  /-- What the store holds for readers. -/
  published : Option Snapshot
  client : Client
  /-- A wake that has been taken and not handled yet. -/
  wake : Option Wake
  log : List Sent

/-- What can happen next. What does not fit the observation changes nothing. -/
inductive Action (β τ : Type) where
  /-- The writer moves on, once it has done what it had decided on. -/
  | write (move : Supervisor.Move β τ)
  /-- The writer does the next effect. -/
  | perform
  /-- A new connection takes the place of the old one. -/
  | connect
  /-- The connection takes what its receiver yields. -/
  | take
  /-- The connection takes what the client has sent. -/
  | hear (w : Wake)
  /-- The wake in hand is handled. -/
  | handle (reachable : Bool)
  /-- The reply under way goes on. -/
  | resume (w : Wake) (reachable : Bool)

namespace Observation

variable {β τ : Type}

def start (words : List UInt64) (memory : τ) : Observation β τ :=
  ⟨.start words memory, [], [], none, .connect, none, []⟩

/-- The connection is open for the next wake. -/
def isFree (o : Observation β τ) : Bool :=
  o.client.stage = .attending && o.wake.isNone

/-- The connection with what it has taken from its receiver. -/
def holding (o : Observation β τ) (taken : Wake × Client) : Observation β τ :=
  { o with client := taken.2, wake := some taken.1 }

/-- The connection after a wake, with what has been sent for it. -/
def answered (o : Observation β τ) (w : Wake) (r : Client × Option Outbound) : Observation β τ :=
  { o with
    client := r.1
    wake := none
    log := o.log ++ r.2.toList.map (⟨·, w.source o.published⟩) }

def react (reachable : Bool) (w : Wake) (o : Observation β τ) : Observation β τ :=
  o.answered w (o.client.step o.published reachable w)

/-- A snapshot has been relayed to the receiver, which keeps `capacity` of them. -/
def receiving (capacity : Nat) (s : Snapshot) (o : Observation β τ) : Observation β τ :=
  { o with client := { o.client with receiver := o.client.receiver.push capacity s } }

/-- The next effect is done. -/
def perform (capacity : Nat) (o : Observation β τ) : Observation β τ :=
  match o.undone with
  | [] => o
  | e :: rest =>
    let o := { o with done := o.done ++ [e], undone := rest }
    match e with
    | .store s => { o with published := some s }
    | .notify s _ => o.receiving capacity s
    | _ => o

def step (settings : SyncSettings) (subscription : Subscription β τ) (capacity : Nat)
    (o : Observation β τ) : Action β τ → Observation β τ
  | .write move =>
    if o.undone.isEmpty then
      let (writer, undone) := o.writer.move settings subscription move
      { o with writer, undone }
    else o
  | .perform => o.perform capacity
  | .connect => { o with client := .connect, wake := none, log := [] }
  | .take => if o.isFree then (o.client.receive?.map o.holding).getD o else o
  | .hear w => if o.isFree && w.isRequest then { o with wake := some w } else o
  | .handle reachable =>
    match o.wake with
    | some w => o.react reachable w
    | none => o
  | .resume w reachable => if o.wake.isNone && w.isProgress then o.react reachable w else o

/-- Where a sequence of actions leads. -/
def after (settings : SyncSettings) (subscription : Subscription β τ) (capacity : Nat) :
    List (Action β τ) → Observation β τ → Observation β τ
  | [], o => o
  | a :: rest, o => after settings subscription capacity rest
      (o.step settings subscription capacity a)

/-- Everything the writer has decided on so far. -/
def effects (o : Observation β τ) : List Effect :=
  o.done ++ o.undone

/-- The writer is about to relay what it has just stored. -/
def IsNotifying (o : Observation β τ) : Prop :=
  ∃ s report rest, o.undone = .notify s report :: rest

/-- The relayed snapshots that the connection has not handled, the next one first. -/
def line (o : Observation β τ) : List Snapshot :=
  (o.wake.bind Wake.snapshot?).toList ++ o.client.receiver.pending

/-! ## What one action can do -/

/-- What an action can make of an observation. -/
inductive Happens (settings : SyncSettings) (subscription : Subscription β τ) (capacity : Nat)
    (o : Observation β τ) : Observation β τ → Prop where
  | rests : Happens settings subscription capacity o o
  | decides {move r} (decided : o.writer.move settings subscription move = r)
      (idle : o.undone = []) :
      Happens settings subscription capacity o { o with writer := r.1, undone := r.2 }
  | works {e rest} (next : o.undone = e :: rest) (hidden : e.isPrivate = true) :
      Happens settings subscription capacity o { o with done := o.done ++ [e], undone := rest }
  | stores {s rest} (next : o.undone = .store s :: rest) :
      Happens settings subscription capacity o
        { o with done := o.done ++ [.store s], undone := rest, published := some s }
  | relays {s report rest} (next : o.undone = .notify s report :: rest) :
      Happens settings subscription capacity o
        (receiving capacity s
          { o with done := o.done ++ [.notify s report], undone := rest })
  | connects :
      Happens settings subscription capacity o
        { o with client := .connect, wake := none, log := [] }
  /-- The next snapshot is taken from a receiver that has lost none. -/
  | takes {s rest} (stage : o.client.stage = .attending) (free : o.wake = none)
      (complete : o.client.receiver.missed = 0) (waiting : o.client.receiver.pending = s :: rest) :
      Happens settings subscription capacity o
        (o.holding (.relayed s, { o.client with receiver := ⟨rest, 0⟩ }))
  /-- The receiver reports a loss. -/
  | reports (stage : o.client.stage = .attending) (free : o.wake = none)
      (lossy : o.client.receiver.missed ≠ 0) :
      Happens settings subscription capacity o
        (o.holding (.lagged o.client.receiver.missed,
          { o.client with receiver := ⟨o.client.receiver.pending, 0⟩ }))
  | hears {w} (stage : o.client.stage = .attending) (free : o.wake = none)
      (request : w.isRequest = true) :
      Happens settings subscription capacity o { o with wake := some w }
  | reacts {w r} (cause : o.wake = some w ∨ o.wake = none ∧ w.isProgress = true)
      (reaction : Client.Reaction o.published o.client w r) :
      Happens settings subscription capacity o (o.answered w r)

variable {settings : SyncSettings} {subscription : Subscription β τ} {capacity : Nat}
  {o : Observation β τ}

theorem views_answered (w : Wake) (r : Client × Option Outbound) :
    views (o.answered w r).log = views o.log ++ (r.2.bind Outbound.view?).toList := by
  unfold views answered
  rw [List.filterMap_append]
  obtain ⟨client, out⟩ := r
  cases out with
  | none => rfl
  | some out =>
      cases view : out.view? <;> simp [view]

theorem shown_answered_of_isPlain {w : Wake} {r : Client × Option Outbound}
    (plain : Client.IsPlain r.2) : shown (o.answered w r).log = shown o.log := by
  unfold shown answered
  rw [List.filterMap_append]
  obtain ⟨client, out⟩ := r
  cases out with
  | none => exact List.append_nil _
  | some out => simp [Sent.shown?, plain out rfl]

theorem shown_answered_of_view {w : Wake} {client : Client} {view : RoomObjects} {s : Snapshot}
    (source : w.source o.published = some s) :
    shown (o.answered w (client, some (.frame (.entities view)))).log = shown o.log ++ [s] := by
  unfold shown answered
  rw [List.filterMap_append, source]
  rfl

theorem isFree_eq_true_iff : o.isFree = true ↔ o.client.stage = .attending ∧ o.wake = none := by
  simp [isFree]

theorem happens_perform : Happens settings subscription capacity o (o.perform capacity) := by
  unfold perform
  cases next : o.undone with
  | nil => exact .rests
  | cons e rest =>
      cases e with
      | store s => exact .stores next
      | notify s report => exact .relays next
      | phase | connect | sleep => exact .works next rfl

theorem happens_take (free : o.isFree = true) :
    Happens settings subscription capacity o ((o.client.receive?.map o.holding).getD o) := by
  obtain ⟨stage, free⟩ := isFree_eq_true_iff.mp free
  unfold Client.receive? Receiver.receive?
  by_cases complete : o.client.receiver.missed = 0
  · rw [if_pos complete]
    cases waiting : o.client.receiver.pending with
    | nil => exact .rests
    | cons s rest => exact .takes stage free complete waiting
  · -- A loss is reported before anything that is left is yielded.
    rw [if_neg complete]
    exact .reports stage free complete

/-- **Every action does one of these things.** -/
theorem happens_step (a : Action β τ) :
    Happens settings subscription capacity o (o.step settings subscription capacity a) := by
  cases a with
  | write move =>
      by_cases idle : o.undone = []
      · rw [step, idle]
        exact .decides rfl idle
      · rw [step, if_neg fun empty => idle (List.isEmpty_iff.mp empty)]
        exact .rests
  | perform => exact happens_perform
  | connect => exact .connects
  | take =>
      rw [step]
      split
      next free => exact happens_take free
      next => exact .rests
  | hear w =>
      rw [step]
      split
      next fits =>
        obtain ⟨free, request⟩ := Bool.and_eq_true_iff.mp fits
        obtain ⟨stage, free⟩ := isFree_eq_true_iff.mp free
        exact .hears stage free request
      next => exact .rests
  | handle reachable =>
      rw [step]
      split
      next w held => exact .reacts (.inl held) (Client.reaction_step ..)
      next => exact .rests
  | resume w reachable =>
      rw [step]
      split
      next fits =>
        obtain ⟨free, progress⟩ := Bool.and_eq_true_iff.mp fits
        exact .reacts (.inr ⟨Option.isNone_iff_eq_none.mp free, progress⟩) (Client.reaction_step ..)
      next => exact .rests

theorem after_append (earlier later : List (Action β τ)) (o : Observation β τ) :
    after settings subscription capacity (earlier ++ later) o =
      after settings subscription capacity later
        (after settings subscription capacity earlier o) := by
  induction earlier generalizing o with
  | nil => rfl
  | cons a rest ih => exact ih _

/-- What holds of an observation, and is kept by whatever happens, holds after all actions. -/
theorem after_induction {P : Observation β τ → Prop} (start : P o)
    (kept : ∀ o o', Happens settings subscription capacity o o' → P o → P o')
    (actions : List (Action β τ)) : P (after settings subscription capacity actions o) := by
  induction actions generalizing o with
  | nil => exact start
  | cons a rest ih => exact ih (kept o _ (happens_step a) start)

/-! ## Coherence -/

/-- How the effects still to be done fit the store that others read and the writer's own. A session
opens with a bare snapshot, which is not relayed; any other snapshot is relayed once it is
stored. -/
inductive Pending : Option Snapshot → Option Snapshot → List Effect → Prop where
  | still {current effects} (hidden : ∀ e ∈ effects, e.isPrivate = true) :
      Pending current current effects
  | opening {published s} (bare : s.entities = none) : Pending published (some s) [.store s]
  | storing {published s report} (full : s.entities.isSome) :
      Pending published (some s) [.store s, .notify s report]
  | notifying {s report} (full : s.entities.isSome) :
      Pending (some s) (some s) [.notify s report]

namespace Pending

variable {published current : Option Snapshot} {s : Snapshot} {e : Effect} {rest : List Effect}

theorem eq_of_nil (h : Pending published current []) : published = current := by
  cases h with
  | still => rfl

theorem works (h : Pending published current (e :: rest)) (hidden : e.isPrivate = true) :
    Pending published current rest := by
  cases h with
  | still all => exact .still fun d hd => all d (List.mem_cons_of_mem e hd)
  | opening | storing | notifying => cases hidden

theorem stores (h : Pending published current (.store s :: rest)) :
    Pending (some s) current rest := by
  cases h with
  | still all => exact absurd (all _ List.mem_cons_self) Bool.false_ne_true
  | opening => exact .still (List.forall_mem_nil _)
  | storing full => exact .notifying full

/-- What has just been stored is bare, or about to be relayed. -/
theorem bare_or_notifies (h : Pending published current (.store s :: rest)) :
    s.entities = none ∨ ∃ report, rest = [.notify s report] := by
  cases h with
  | still all => exact absurd (all _ List.mem_cons_self) Bool.false_ne_true
  | opening bare => exact .inl bare
  | storing => exact .inr ⟨_, rfl⟩

/-- What is relayed is what the store holds, and it is the last thing to do. -/
theorem relays {report : Report} (h : Pending published current (.notify s report :: rest)) :
    published = some s ∧ current = some s ∧ rest = [] ∧ s.entities.isSome := by
  cases h with
  | still all => exact absurd (all _ List.mem_cons_self) Bool.false_ne_true
  | notifying full => exact ⟨rfl, rfl, rfl, full⟩

end Pending

theorem stored?_of_isPrivate {e : Effect} (h : e.isPrivate = true) : e.stored? = none := by
  cases e with
  | phase | connect | sleep => rfl
  | store | notify => cases h

theorem isPrivate_of_isQuiet {e : Effect} (h : e.IsQuiet) : e.isPrivate = true := by
  cases e with
  | phase | sleep => rfl
  | connect | store | notify => exact h.elim

/-- A writer that has done everything decides on effects in their order. -/
theorem pending_move {s : Supervisor β τ} {published : Option Snapshot}
    (h : Pending published s.hub.current []) (move : Supervisor.Move β τ) :
    let r := s.move settings subscription move
    Pending published r.1.hub.current r.2 := by
  intro r
  have same : published = s.hub.current := h.eq_of_nil
  rcases Supervisor.move_cases settings subscription s move with quiet | connect |
    ⟨-, rooms, layout, b, -, first⟩ | ⟨current, m, update, next, -, -, applied, accepted⟩
  · -- Nothing is stored, so the two stores stay the same.
    show Pending published r.1.hub.current r.2
    rw [same, ← quiet.current]
    exact .still fun e he => isPrivate_of_isQuiet (quiet.effects e he)
  · rw [show r = s.beginSession from connect, same]
    refine .still fun e he => ?_
    rw [List.mem_singleton.mp he]
    rfl
  · -- The first snapshot of a session is bare, and nobody is notified of it.
    rw [show r = s.publishFirst b from first]
    exact .opening rfl
  · rw [show r = s.accept subscription next from accepted]
    obtain ⟨-, -, rfl⟩ := Snapshot.apply_eq_ok_iff.mp applied
    exact .storing rfl

/-- The parts of an observation fit together. -/
structure Coherent (o : Observation β τ) : Prop where
  pending : Pending o.published o.writer.hub.current o.undone
  /-- A wake is taken by an attending connection only. -/
  held : ∀ w, o.wake = some w → o.client.stage = .attending
  selection : ∀ room, o.client.stage = .fetching room ∨ o.client.stage = .describing room →
    o.client.selected = some room
  /-- Bare snapshots are not relayed. -/
  full : ∀ s ∈ o.line, s.entities.isSome

/-- Entities that have been sent are those of a room in the snapshot they were made from. -/
def Sourced (o : Observation β τ) : Prop :=
  ∀ e ∈ o.log, ∀ view, e.out.view? = some view →
    ∃ s room, e.source = some s ∧ s.roomObjects room = .ok view

theorem sourced_answered (h : o.Sourced) {w : Wake} {r : Client × Option Outbound}
    (reaction : Client.Reaction o.published o.client w r) : (o.answered w r).Sourced := by
  intro e he view sent
  rcases List.mem_append.mp he with he | he
  · exact h e he view sent
  · obtain ⟨out, hout, rfl⟩ := List.mem_map.mp he
    have hout : r.2 = some out := Option.mem_toList.mp hout
    rcases reaction.sends with plain | ⟨s, room, found, shown, rfl, cause⟩
    · rw [plain out hout] at sent
      cases sent
    · cases hout
      cases sent
      refine ⟨s, room, ?_, shown⟩
      rcases cause with ⟨rfl, -⟩ | ⟨progress, -, latest, -⟩
      · rfl
      · show w.snapshot?.or o.published = some s
        rw [(Wake.snapshot?_eq_none (.inr progress)).1, latest]
        rfl

theorem sourced_happens {o' : Observation β τ}
    (happens : Happens settings subscription capacity o o') (h : o.Sourced) : o'.Sourced := by
  cases happens with
  | rests | decides | works | stores | relays | takes | reports | hears => exact h
  | connects =>
      intro e he
      cases he
  | reacts cause reaction => exact sourced_answered h reaction

theorem coherent_start (words : List UInt64) (memory : τ) :
    Coherent (start words memory : Observation β τ) where
  pending := .still (List.forall_mem_nil _)
  held _ h := by cases h
  selection _ h := by rcases h with h | h <;> cases h
  full _ h := by cases h

/-- A wake that is being handled stands before what the receiver holds. -/
theorem line_of_cause {w : Wake} (cause : o.wake = some w ∨ o.wake = none ∧ w.isProgress = true) :
    o.line = w.snapshot?.toList ++ o.client.receiver.pending := by
  rcases cause with held | ⟨free, progress⟩
  · rw [line, held]
    rfl
  · rw [line, free, (Wake.snapshot?_eq_none (.inr progress)).1]
    rfl

theorem line_of_free (free : o.wake = none) : o.line = o.client.receiver.pending := by
  rw [line, free]
  rfl

/-- A request is no part of the line. -/
theorem line_hearing {w : Wake} (free : o.wake = none) (request : w.isRequest = true) :
    Observation.line { o with wake := some w } = o.line := by
  rw [line_of_free free]
  show w.snapshot?.toList ++ o.client.receiver.pending = _
  rw [(Wake.snapshot?_eq_none (.inl request)).1]
  rfl

/-- What is taken from the receiver stays in front of the line. -/
theorem line_taking {s : Snapshot} {rest : List Snapshot} (free : o.wake = none)
    (waiting : o.client.receiver.pending = s :: rest) :
    (o.holding (.relayed s, { o.client with receiver := ⟨rest, 0⟩ })).line = o.line := by
  rw [line_of_free free, waiting]
  rfl

/-- A relayed snapshot comes last in the line; another one may have been lost for it. -/
theorem line_receiving_sublist (s : Snapshot) :
    (o.receiving capacity s).line.Sublist (o.line ++ [s]) := by
  show ((o.wake.bind Wake.snapshot?).toList ++
    (o.client.receiver.push capacity s).pending).Sublist _
  unfold line
  rw [List.append_assoc]
  refine List.Sublist.append_left ?_ _
  rcases Receiver.push_cases capacity s o.client.receiver with pushed | pushed
  · simp [pushed]
  · rw [pushed]
    exact (List.drop_sublist 1 _).append_right [s]

/-- What a connection has left after a reaction was in the line before. -/
theorem line_answered_sublist {w : Wake} {r : Client × Option Outbound}
    (reaction : Client.Reaction o.published o.client w r) :
    (o.answered w r).line.Sublist o.line := by
  show r.1.receiver.pending.Sublist o.line
  rcases reaction.receiver with same | skipped
  · rw [same]
    exact List.sublist_append_right _ _
  · rw [skipped]
    exact List.nil_sublist _

theorem coherent_answered (h : Coherent o) {w : Wake} {r : Client × Option Outbound}
    (reaction : Client.Reaction o.published o.client w r) : Coherent (o.answered w r) where
  pending := h.pending
  held _ none := by cases none
  full s hs := h.full s ((line_answered_sublist reaction).subset hs)
  selection := by
    intro room stage
    cases reaction with
    | unfit => exact h.selection room stage
    | selects =>
        rcases stage with stage | stage
        · cases stage
          rfl
        · cases stage
    | fetches fetching =>
        rcases stage with stage | stage
        · cases stage
        · cases stage
          exact h.selection _ (.inl fetching)
    | closes | answers | shows | ignores | skips | reads | misses =>
        rcases stage with stage | stage <;> cases stage

/-- **Coherence is kept.** -/
theorem coherent_happens {o' : Observation β τ}
    (happens : Happens settings subscription capacity o o') (h : Coherent o) : Coherent o' := by
  cases happens with
  | rests => exact h
  | decides decided idle =>
      subst decided
      exact ⟨pending_move (idle ▸ h.pending) _, h.held, h.selection, h.full⟩
  | works next hidden =>
      exact ⟨(next ▸ h.pending).works hidden, h.held, h.selection, h.full⟩
  | stores next => exact ⟨(next ▸ h.pending).stores, h.held, h.selection, h.full⟩
  | @relays s report rest next =>
      obtain ⟨published, current, rfl, full⟩ := (next ▸ h.pending).relays
      refine ⟨?_, h.held, h.selection, fun a ha => ?_⟩
      · show Pending o.published o.writer.hub.current []
        rw [published, current]
        exact .still (List.forall_mem_nil _)
      · exact forall_mem_concat h.full full a ((line_receiving_sublist (o := o) s).subset ha)
  | connects =>
      refine ⟨h.pending, ?_, ?_, ?_⟩
      · intro w none
        cases none
      · intro room stage
        rcases stage with stage | stage <;> cases stage
      · intro s hs
        cases hs
  | takes stage free complete waiting =>
      exact ⟨h.pending, fun _ _ => stage, h.selection,
        fun s hs => h.full s (line_taking free waiting ▸ hs)⟩
  | reports stage free lossy =>
      refine ⟨h.pending, fun _ _ => stage, h.selection, fun s hs => h.full s ?_⟩
      rw [line, free]
      exact hs
  | hears stage free request =>
      exact ⟨h.pending, fun _ _ => stage, h.selection,
        fun s hs => h.full s (line_hearing free request ▸ hs)⟩
  | reacts cause reaction => exact coherent_answered h reaction

/-! ## Plain actions -/

/-- The writer makes these moves and does everything that it decides on. -/
def writes (moves : List (Supervisor.Move β τ)) : List (Action β τ) :=
  moves.flatMap fun move => [.write move, .perform, .perform]

end Observation

/-! ## The relay among the subscribers -/

section Relay

open Rehearsal

variable (current : Option Snapshot) (s : Snapshot)

theorem Registry.callAll_append {β σ : Type} (call : Entry β → σ → σ × Outcome)
    (front back : List (Entry β)) (state : σ) (report : Report) :
    callAll call (front ++ back) state report =
      callAll call back (callAll call front state report).1
        (callAll call front state report).2 := by
  induction front generalizing state report with
  | nil => rfl
  | cons e rest ih => exact ih _ _

/-- Subscribers other than relays send nothing to stream clients. -/
theorem clients_callAll_noted {entries : List (Entry Listener)}
    (noted : ∀ e ∈ entries, ∃ name manner, e.subscriber = .noted name manner)
    (state : Registry Listener × Audience) (report : Report) :
    let a := (Registry.callAll (Audience.subscription current s) entries state report).1.2
    a.peers = state.2.peers ∧ a.capacity = state.2.capacity := by
  induction entries generalizing state report with
  | nil => exact ⟨rfl, rfl⟩
  | cons e rest ih =>
      obtain ⟨name, manner, subscriber⟩ := noted e List.mem_cons_self
      have called : (Audience.subscription current s e state).1.2.peers = state.2.peers ∧
          (Audience.subscription current s e state).1.2.capacity = state.2.capacity := by
        unfold Audience.subscription
        rw [subscriber]
        cases manner <;> exact ⟨rfl, rfl⟩
      have tail := ih (fun d hd => noted d (List.mem_cons_of_mem e hd))
        (Audience.subscription current s e state).1
        (report.count (Audience.subscription current s e state).2)
      exact ⟨tail.1.trans called.1, tail.2.trans called.2⟩

/-- **A notification with one relay reaches every stream client once**, in the way in which an
observation takes it in. -/
theorem receivers_notify {r : Registry Listener} {front back : List (Entry Listener)} {id : UInt64}
    (entries : r.entries = front ++ ⟨id, .relay⟩ :: back)
    (others : ∀ e ∈ front ++ back, ∃ name manner, e.subscriber = .noted name manner)
    (state : Registry Listener × Audience) :
    let a := (r.notify (Audience.subscription current s) state).1.2
    a.peers.map (·.client.receiver) =
      state.2.peers.map (·.client.receiver.push state.2.capacity s) := by
  intro a
  have called : a = (Registry.callAll (Audience.subscription current s)
      (front ++ ⟨id, .relay⟩ :: back) state .none).1.2 := by
    show (Registry.callAll _ r.entries state .none).1.2 = _
    rw [entries]
  rw [called, Registry.callAll_append]
  -- The subscribers before the relay and those behind it leave all receivers alone.
  have before := clients_callAll_noted current s
    (fun e he => others e (List.mem_append_left back he)) state .none
  generalize Registry.callAll (Audience.subscription current s) front state .none = middle at before
  obtain ⟨⟨registry, b⟩, report⟩ := middle
  have after := clients_callAll_noted current s
    (fun e he => others e (List.mem_append_right front he)) (registry, b.broadcast s)
    (report.count .handled)
  show (Registry.callAll (Audience.subscription current s) back (registry, b.broadcast s)
    (report.count .handled)).1.2.peers.map _ = _
  rw [after.1]
  show (b.peers.map _).map _ = _
  rw [List.map_map, before.1, before.2]
  rfl

end Relay
end HexWorld
