import HexWorld.Proofs.History
import HexWorld.Proofs.Sync.Run

/-!
# `Proofs.Sync.Course` — the course of a run, and the outline of the machine

Whether supervision goes on, when, and what it shows, depends on few things: where a session stands,
how many failures there were in a row, and how many sessions. They make up the outline of a machine.
What happens to it is told in marks, and `Advance` lists what can be told next, with all that is
known when it happens. Everything about retries and phases is proved of outlines.

## Contents
- `Mark`, and `Position.news`: what an event means for the session that waits for it.
- `Supervisor.course`, the marks of a run.
- `Outline`, `Advance`: one step of an outline.
- `Told`, with `Told.split_induction`, and `told_course`: the course of a run is told of the outline
  of its machine.
- `phases_course`: the phases of the course are those of the log.
-/

namespace HexWorld

/-! ## Marks -/

/-- What is told about a run: how its sessions fare, and which phases are shown. -/
inductive Mark where
  | shown (phase : Phase)
  /-- A session begins: it opens a connection. -/
  | begun
  /-- The connection is open. -/
  | opened
  /-- The world has been described, and the description is valid. -/
  | described
  | subscribed
  /-- An update has been accepted. -/
  | accepted
  /-- The session has failed. -/
  | failed (failure : SourceError)
  /-- Opening the connection brought the machine down. -/
  | crashed
  deriving DecidableEq

namespace Mark

def phase? : Mark → Option Phase
  | shown phase => some phase
  | _ => none

def isBegun : Mark → Bool
  | begun => true
  | _ => false

def isAccepted : Mark → Bool
  | accepted => true
  | _ => false

def isFailed : Mark → Bool
  | failed _ => true
  | _ => false

/-- A failure, or what else there is to tell. -/
def ofNews : Except SourceError (Option Mark) → List Mark
  | .ok mark => mark.toList
  | .error failure => [failed failure]

end Mark

/-- What an event means for the session that waits for it: its failure, a step on its way, or
nothing of either kind. An event for which nothing waits means nothing. -/
def Position.news (timeout : Duration) : Position → Event → Except SourceError (Option Mark)
  | .connecting, .connected result => do
    result.ofConnect
    return some .opened
  | .connecting, .panicked _ => return some .crashed
  | .listing, .listed result => do
    let _ ← result.ofRequest "ListRooms" timeout
    return none
  | .placing rooms, .placed result => do
    let layout ← result.ofRequest "GetRoomLayout" timeout
    let _ ← Bootstrap.ofReplies rooms layout
    return some .described
  | .subscribing _, .subscribed result => do
    result.ofRequest "SubscribeEntities" timeout
    return some .subscribed
  | .streaming current, .item (some item) => do
    let message ← item
    let update ← Update.ofMessage message
    match current.apply update with
    | .ok _ => return some .accepted
    | .error (.stale ..) => return none
    | .error refusal => throw (.protocol refusal.message)
  | .streaming _, .item none => throw .streamEnded
  | _, _ => return none

def Effect.mark? : Effect → Option Mark
  | .phase p => some (.shown p)
  | .connect => some .begun
  | _ => none

def Effect.phase? : Effect → Option Phase
  | .phase p => some p
  | _ => none

/-- The phases that a log shows, in order. -/
def phases (log : List Effect) : List Phase :=
  log.filterMap Effect.phase?

def Phase.isBootstrapping : Phase → Bool
  | .bootstrapping _ => true
  | _ => false

def Phase.isBackoff : Phase → Bool
  | .backoff _ _ => true
  | _ => false

/-- How many of the phases that a log shows are of one kind. -/
def countPhases (kind : Phase → Bool) (log : List Effect) : Nat :=
  (phases log).countP kind

theorem countPhases_append (kind : Phase → Bool) (log later : List Effect) :
    countPhases kind (log ++ later) = countPhases kind log + countPhases kind later := by
  unfold countPhases phases
  rw [List.filterMap_append, List.countP_append]

namespace Supervisor

variable {β τ : Type}

/-- What a move means for the session that is under way. A requested stop wins over any event. -/
def newsOf (timeout : Duration) (s : Supervisor β τ) : Move β τ → List Mark
  | .poll false (some e) => Mark.ofNews (s.position.news timeout e)
  | _ => []

/-- What is told about one move: what it means for the session, and then what the machine does. -/
def marks (settings : SyncSettings) (subscription : Subscription β τ) (s : Supervisor β τ)
    (m : Move β τ) : List Mark :=
  s.newsOf settings.requestTimeout m ++
    (s.move settings subscription m).2.filterMap Effect.mark?

/-- The course of a run. -/
def course (settings : SyncSettings) (subscription : Subscription β τ) (moves : List (Move β τ))
    (s : Supervisor β τ) : List Mark :=
  trace settings subscription (marks settings subscription) moves s

variable {settings : SyncSettings} {subscription : Subscription β τ}

theorem course_cons (m : Move β τ) (rest : List (Move β τ)) (s : Supervisor β τ) :
    course settings subscription (m :: rest) s =
      s.marks settings subscription m ++
        course settings subscription rest (s.move settings subscription m).1 := rfl

end Supervisor

/-! ## Outlines -/

/-- Where a machine stands, without the data of its session. -/
inductive Stage where
  | idle
  | beginning
  | connecting
  /-- The connection is open, and the world is not described yet. -/
  | opened
  /-- The world has been described, and the subscription has not begun. -/
  | described
  | streaming
  | sleeping
  | ended (ending : Ending)

/-- A session has begun and not failed yet. -/
def Stage.InSession : Stage → Prop
  | .connecting | .opened | .described | .streaming => True
  | _ => False

/-- The machine goes on. -/
def Stage.IsRunning (stage : Stage) : Prop :=
  ∀ ending, stage ≠ .ended ending

theorem Stage.InSession.isRunning {stage : Stage} (h : stage.InSession) : stage.IsRunning := by
  rintro ending rfl
  exact h

def Position.stage : Position → Stage
  | .idle => .idle
  | .beginning => .beginning
  | .connecting => .connecting
  | .listing | .placing _ => .opened
  | .subscribing _ => .described
  | .streaming _ => .streaming
  | .sleeping => .sleeping
  | .ended ending => .ended ending

/-- What retries and phases depend on. -/
structure Outline where
  stage : Stage
  failures : UInt32
  session : UInt64

namespace Outline

def start : Outline := ⟨.idle, 0, 0⟩

def moveTo (stage : Stage) (o : Outline) : Outline :=
  { o with stage }

end Outline

def Supervisor.outline {β τ : Type} (s : Supervisor β τ) : Outline :=
  ⟨s.position.stage, s.failures, s.session⟩

/-- What can be told next of an outline, and what becomes of it. Without the leave of `mayStop` no
stop is told. -/
inductive Advance (policy : Backoff) (mayStop : Prop) (o : Outline) :
    List Mark → Outline → Prop where
  | rests : Advance policy mayStop o [] o
  | rounds (stage : o.stage = .idle ∨ o.stage = .sleeping) :
      Advance policy mayStop o [.shown (.bootstrapping o.failures)] (o.moveTo .beginning)
  | begins (stage : o.stage = .beginning) :
      Advance policy mayStop o [.begun]
        { o with stage := .connecting, session := Saturating.next64 o.session }
  | opens (stage : o.stage = .connecting) : Advance policy mayStop o [.opened] (o.moveTo .opened)
  | crashes {detail} (stage : o.stage = .connecting) :
      Advance policy mayStop o [.crashed] (o.moveTo (.ended (.crashed detail)))
  | describes (stage : o.stage = .opened) :
      Advance policy mayStop o [.described] (o.moveTo .described)
  | subscribes (stage : o.stage = .described) :
      Advance policy mayStop o [.subscribed, .shown (.streaming o.session)] (o.moveTo .streaming)
  | accepts (stage : o.stage = .streaming) :
      Advance policy mayStop o [.accepted] { o with failures := 0 }
  | waits {e words} (stage : o.stage.InSession) (retryable : e.isRetryable = true)
      (allowed : policy.allowsRetry (Saturating.next32 o.failures) = true) :
      Advance policy mayStop o
        [.failed e, .shown (.backoff (Saturating.next32 o.failures)
          (policy.delay (Saturating.next32 o.failures - 1) words).1)]
        { o with stage := .sleeping, failures := Saturating.next32 o.failures }
  | exhausts {e} (stage : o.stage.InSession) (retryable : e.isRetryable = true)
      (forbidden : policy.allowsRetry (Saturating.next32 o.failures) = false) :
      Advance policy mayStop o [.failed e, .shown .stopped]
        { o with
          stage := .ended (.finished
            (.error (.retriesExhausted (Saturating.next32 o.failures) e)))
          failures := Saturating.next32 o.failures }
  | refuses {e} (stage : o.stage.InSession) (final : e.isRetryable = false) :
      Advance policy mayStop o [.failed e, .shown .stopped]
        (o.moveTo (.ended (.finished (.error (.nonRetryable e)))))
  | stops (leave : mayStop) (started : o.stage ≠ .idle) (running : o.stage.IsRunning) :
      Advance policy mayStop o [.shown .stopped] (o.moveTo (.ended (.finished (.ok ()))))

/-- What has been told of an outline since the start. -/
inductive Told (policy : Backoff) (mayStop : Prop) : List Mark → Outline → Prop where
  | start : Told policy mayStop [] .start
  | step {told marks o o'} (h : Told policy mayStop told o)
      (advance : Advance policy mayStop o marks o') : Told policy mayStop (told ++ marks) o'

/-- After its end nothing is told of a machine. -/
theorem Advance.of_ended {policy : Backoff} {mayStop : Prop} {o o' : Outline} {marks : List Mark}
    {ending : Ending} (advance : Advance policy mayStop o marks o')
    (ended : o.stage = .ended ending) : marks = [] ∧ o' = o := by
  cases advance with
  | rests => exact ⟨rfl, rfl⟩
  | rounds other => rcases other with other | other <;> cases ended.symm.trans other
  | begins other | opens other | crashes other | describes other | subscribes other
  | accepts other => cases ended.symm.trans other
  | waits inSession | exhausts inSession | refuses inSession =>
      exact absurd ended (inSession.isRunning _)
  | stops _ _ running => exact absurd ended (running _)

/-- What holds when a mark is told, and is kept by all that is told after it, holds of every place
of that mark: of what was told before it, of what has been told since, and of the outline now. -/
theorem Told.split_induction {policy : Backoff} {mayStop : Prop} {m : Mark}
    {P : List Mark → List Mark → Outline → Prop}
    (new : ∀ {told o rest o'} before, Told policy mayStop told o →
      Advance policy mayStop o (before ++ m :: rest) o' → P (told ++ before) rest o')
    (old : ∀ {past rest o marks o'}, P past rest o → Advance policy mayStop o marks o' →
      P past (rest ++ marks) o')
    {told : List Mark} {o : Outline} (h : Told policy mayStop told o) {past rest : List Mark}
    (split : told = past ++ m :: rest) : P past rest o := by
  induction h generalizing rest with
  | start => simp at split
  | @step told marks o o' before advance ih =>
      rcases split_append split with ⟨between, rfl, rfl⟩ | ⟨after, earlier, rfl⟩
      · exact new between before advance
      · exact old (ih earlier) advance

namespace Supervisor

variable {β τ : Type} {settings : SyncSettings} {subscription : Subscription β τ}
  {s : Supervisor β τ} {mayStop : Prop}

theorem position_of_ended {ending : Ending} (h : s.outline.stage = .ended ending) :
    s.position = .ended ending := by
  cases position : s.position with
  | ended =>
      cases (congrArg Position.stage position).symm.trans h
      rfl
  | idle | beginning | connecting | listing | placing | subscribing | streaming | sleeping =>
      cases (congrArg Position.stage position).symm.trans h

/-! ## Moves advance the outline -/

theorem advance_fail (stage : s.outline.stage.InSession) (e : SourceError) :
    Advance settings.policy mayStop s.outline
      (.failed e :: (s.fail settings.policy e).2.filterMap Effect.mark?)
      (s.fail settings.policy e).1.outline := by
  rcases fail_cases settings.policy e s with
    ⟨final, h⟩ | ⟨retryable, allowed, h⟩ | ⟨retryable, forbidden, h⟩
  · rw [h]
    exact .refuses stage final
  · rw [h]
    exact .waits stage retryable allowed
  · rw [h]
    exact .exhausts stage retryable forbidden

theorem advance_receive {current : Snapshot} (position : s.position = .streaming current)
    (m : EntitiesMessage) :
    Advance settings.policy mayStop s.outline
      (Mark.ofNews (s.position.news settings.requestTimeout (.item (some (.ok m)))) ++
        (s.receive settings.policy subscription current m).2.filterMap Effect.mark?)
      (s.receive settings.policy subscription current m).1.outline := by
  have stage : s.outline.stage = .streaming := congrArg Position.stage position
  have inSession : s.outline.stage.InSession := by
    rw [stage]
    trivial
  unfold receive
  simp only [position, Position.news, bind, Except.bind]
  cases Update.ofMessage m with
  | error e => exact advance_fail inSession e
  | ok update =>
      simp only
      cases current.apply update with
      | ok next =>
          have accepted : (s.accept subscription next).1.outline =
              { s.outline with failures := 0 } := by
            show Outline.mk .streaming 0 s.session = ⟨s.outline.stage, 0, s.session⟩
            rw [stage]
          rw [accepted]
          exact .accepts stage
      | error refusal =>
          -- A late message leaves the outline alone; any other refusal ends the session.
          cases refusal with
          | stale => exact .rests
          | unknownRoom => exact advance_fail inSession _

theorem advance_take (e : Event) :
    Advance settings.policy mayStop s.outline
      (Mark.ofNews (s.position.news settings.requestTimeout e) ++
        (s.take settings subscription e).2.filterMap Effect.mark?)
      (s.take settings subscription e).1.outline := by
  have staged {p : Position} (position : s.position = p) : s.outline.stage = p.stage :=
    congrArg Position.stage position
  unfold take
  split
  case h_1 result position =>
    simp only [position, Position.news]
    cases result.ofConnect with
    | ok => exact .opens (staged position)
    | error failure => exact advance_fail (staged position ▸ trivial) failure
  case h_2 detail position =>
    simp only [position, Position.news]
    exact .crashes (staged position)
  case h_3 result position =>
    simp only [position, Position.news]
    cases result.ofRequest "ListRooms" settings.requestTimeout with
    | ok rooms =>
        have same : (s.moveTo (.placing rooms)).1.outline = s.outline := by
          show Outline.mk .opened _ _ = ⟨s.outline.stage, _, _⟩
          rw [staged position]
          rfl
        rw [same]
        exact .rests
    | error failure => exact advance_fail (staged position ▸ trivial) failure
  case h_4 rooms result position =>
    simp only [position, Position.news]
    cases result.ofRequest "GetRoomLayout" settings.requestTimeout with
    | error failure => exact advance_fail (staged position ▸ trivial) failure
    | ok layout =>
        simp only [bind, Except.bind]
        cases Bootstrap.ofReplies rooms layout with
        | ok b => exact .describes (staged position)
        | error failure => exact advance_fail (staged position ▸ trivial) failure
  case h_5 current result position =>
    simp only [position, Position.news]
    cases result.ofRequest "SubscribeEntities" settings.requestTimeout with
    | ok => exact .subscribes (staged position)
    | error failure => exact advance_fail (staged position ▸ trivial) failure
  case h_6 current item position =>
    cases item with
    | ok m => exact advance_receive position m
    | error failure =>
        simp only [position, Position.news]
        exact advance_fail (staged position ▸ trivial) failure
  case h_7 current position =>
    simp only [position, Position.news]
    exact advance_fail (staged position ▸ trivial) .streamEnded
  case h_8 position =>
    simp only [position, Position.news]
    exact .rounds (.inr (staged position))
  case h_9 =>
    rw [Position.news]
    · exact .rests
    all_goals assumption

/-- The move asks for a stop. -/
def Move.isStop : Move β τ → Bool
  | .poll stopping _ => stopping
  | _ => false

/-- A stop ends a machine that runs. One that has never been polled shows its first phase before
that, so its outline takes two steps. -/
theorem told_stop {told : List Mark} (leave : mayStop)
    (h : Told settings.policy mayStop told s.outline) :
    Told settings.policy mayStop (told ++ s.stop.2.filterMap Effect.mark?) s.stop.1.outline := by
  have finished {s : Supervisor β τ} {told : List Mark}
      (h : Told settings.policy mayStop told s.outline) (started : s.outline.stage ≠ .idle)
      (running : s.outline.stage.IsRunning) :
      Told settings.policy mayStop (told ++ (s.finish (.ok ())).2.filterMap Effect.mark?)
        (s.finish (.ok ())).1.outline :=
    h.step (.stops leave started running)
  cases position : s.position with
  | ended ending =>
      have same : s.stop = (s, []) := by simp only [stop, position]
      rw [same]
      exact h.step .rests
  | idle =>
      have both : s.stop = ((s.beginRound.1.finish (.ok ())).1,
          s.beginRound.2 ++ (s.beginRound.1.finish (.ok ())).2) := by
        simp only [stop, position]
      have first := h.step (.rounds (.inl (congrArg Position.stage position)))
      rw [both, List.filterMap_append, ← List.append_assoc]
      exact finished (s := s.beginRound.1) first (by exact Stage.noConfusion)
        (by exact fun _ => Stage.noConfusion)
  | beginning | connecting | listing | placing | subscribing | streaming | sleeping =>
      have same : s.stop = s.finish (.ok ()) := by simp only [stop, position]
      have stage : s.outline.stage = _ := congrArg Position.stage position
      rw [same]
      refine finished h ?_ ?_ <;> rw [stage]
      · exact Stage.noConfusion
      · exact fun _ => Stage.noConfusion

/-- A machine that waits for nothing has no news. -/
theorem newsOf_of_not_inSession {m : Move β τ} (outside : ¬s.outline.stage.InSession)
    (timeout : Duration) : s.newsOf timeout m = [] := by
  unfold newsOf
  split
  · cases position : s.position with
    | idle | beginning | sleeping | ended => rfl
    | connecting | listing | placing | subscribing | streaming =>
        refine absurd ?_ outside
        show s.position.stage.InSession
        rw [position]
        trivial
  · rfl

theorem advance_poll (ready : Option Event) :
    Advance settings.policy mayStop s.outline (s.marks settings subscription (.poll false ready))
      (s.move settings subscription (.poll false ready)).1.outline := by
  have staged {p : Position} (position : s.position = p) : s.outline.stage = p.stage :=
    congrArg Position.stage position
  show Advance settings.policy mayStop s.outline (s.newsOf _ _ ++
    (s.poll settings subscription false ready).2.filterMap Effect.mark?)
    (s.poll settings subscription false ready).1.outline
  unfold poll
  rw [if_neg Bool.false_ne_true]
  split
  next position =>
    rw [newsOf_of_not_inSession (by rw [staged position]; exact id)]
    exact .rounds (.inl (staged position))
  next position =>
    rw [newsOf_of_not_inSession (by rw [staged position]; exact id)]
    exact .begins (staged position)
  next => exact advance_take _
  next => exact .rests

theorem advance_move {m : Move β τ} (unstopped : m.isStop = false) :
    Advance settings.policy mayStop s.outline (s.marks settings subscription m)
      (s.move settings subscription m).1.outline := by
  cases m with
  | register | deregister | remember => exact .rests
  | poll stopping ready =>
      cases stopping with
      | true => cases unstopped
      | false => exact advance_poll ready

theorem told_move {told : List Mark} {m : Move β τ} (leave : m.isStop = true → mayStop)
    (h : Told settings.policy mayStop told s.outline) :
    Told settings.policy mayStop (told ++ s.marks settings subscription m)
      (s.move settings subscription m).1.outline := by
  cases stop : m.isStop with
  | false => exact h.step (advance_move stop)
  | true =>
      cases m with
      | register | deregister | remember => cases stop
      | poll stopping ready =>
          obtain rfl : stopping = true := stop
          exact told_stop (leave rfl) h

/-- **The course of a run is told of its machine.** No stop is told if none is asked for. -/
theorem told_course (settings : SyncSettings) (subscription : Subscription β τ)
    (words : List UInt64) (memory : τ) {moves : List (Move β τ)}
    (leave : ∀ m ∈ moves, m.isStop = true → mayStop) :
    Told settings.policy mayStop (course settings subscription moves (start words memory))
      (run settings subscription moves (start words memory)).1.outline := by
  refine trace_induction (P := fun s _ told => Told settings.policy mayStop told s.outline)
    .start ?_
  intro s _ told m hm h
  exact told_move (leave m hm) h

/-! ## The course and the log -/

/-! News are about a session on its way, so they show no phase. -/

theorem phases_ofNews_bind {α : Type} {x : Except SourceError α}
    {f : α → Except SourceError (Option Mark)}
    (next : ∀ a, (Mark.ofNews (f a)).filterMap Mark.phase? = []) :
    (Mark.ofNews (x >>= f)).filterMap Mark.phase? = [] := by
  cases x with
  | error => rfl
  | ok a => exact next a

theorem phases_news (timeout : Duration) (p : Position) (e : Event) :
    (Mark.ofNews (p.news timeout e)).filterMap Mark.phase? = [] := by
  unfold Position.news
  split
  case h_1 | h_3 | h_5 => exact phases_ofNews_bind fun _ => rfl
  case h_4 => exact phases_ofNews_bind fun _ => phases_ofNews_bind fun _ => rfl
  case h_6 =>
    refine phases_ofNews_bind fun _ => phases_ofNews_bind fun _ => ?_
    split <;> rfl
  case h_2 | h_7 | h_8 => rfl

theorem phases_newsOf (timeout : Duration) (m : Move β τ) :
    (s.newsOf timeout m).filterMap Mark.phase? = [] := by
  unfold newsOf
  split
  · exact phases_news timeout s.position _
  · rfl

/-- The phases of the course are those that the machine has shown. -/
theorem phases_course (settings : SyncSettings) (subscription : Subscription β τ)
    (moves : List (Move β τ)) (s : Supervisor β τ) :
    (course settings subscription moves s).filterMap Mark.phase? =
      phases (run settings subscription moves s).2 := by
  refine trace_induction
    (P := fun _ log told => told.filterMap Mark.phase? = phases log) rfl ?_
  intro s log told m _ same
  have effects (effects : List Effect) :
      (effects.filterMap Effect.mark?).filterMap Mark.phase? = phases effects := by
    unfold phases
    rw [List.filterMap_filterMap]
    congr 1
    funext e
    cases e <;> rfl
  rw [List.filterMap_append, same, marks, List.filterMap_append, phases_newsOf,
    effects]
  exact (List.filterMap_append).symm

end Supervisor
end HexWorld
