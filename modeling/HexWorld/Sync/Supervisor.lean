import HexWorld.Message.Basic
import HexWorld.Sync.Backoff
import HexWorld.Sync.Hub
import HexWorld.Sync.Request

/-!
# Supervision of a source

The one writer of snapshots, as a machine. It opens a connection, asks for the description of the
world, subscribes, and applies what the subscription yields; every way through this is a session.
A session ends by a failure, after which there is a wait and a new session, or the end.

The machine is *polled*: at each poll it is told whether a stop has been requested and what it waits
for, if that has come. A stop is looked at first, so it wins over anything that came at the same
moment.

## Contents
- `Position`, where the machine stands; `Event`, what can come; `Effect`, what it does.
- `Supervisor`, with `fail`, `accept` and `receive`: the reactions.
- `Supervisor.poll`.
- `Ending.report`, what the owner is told at the end.
-/

namespace HexWorld

/-- The settings of supervision. -/
structure SyncSettings where
  policy : Backoff
  requestTimeout : Duration

/-- How supervision ends. -/
inductive Ending where
  | finished (outcome : Except FatalError Unit)
  | crashed (detail : String)

/-- Where supervision stands. -/
inductive Position where
  /-- It has not been polled yet. -/
  | idle
  /-- A session is about to begin. -/
  | beginning
  | connecting
  /-- The room list has been asked for. -/
  | listing
  /-- The layout has been asked for. -/
  | placing (rooms : RoomList)
  | subscribing (current : Snapshot)
  | streaming (current : Snapshot)
  /-- A failed session is behind, and the wait before the next one has begun. -/
  | sleeping
  | ended (ending : Ending)

/-- What the machine can wait for. -/
inductive Event where
  | connected (result : Bounded Unit)
  /-- Opening the connection brought the machine down. -/
  | panicked (detail : String)
  | listed (result : Bounded RoomList)
  | placed (result : Bounded LayoutReply)
  | subscribed (result : Bounded Unit)
  /-- The next item of the subscription, or its end. -/
  | item (next : Option (Except SourceError EntitiesMessage))
  /-- The wait is over. -/
  | woken

/-- What the machine does to the world around it, in this order. -/
inductive Effect where
  | phase (p : Phase)
  | connect
  | store (s : Snapshot)
  | notify (s : Snapshot) (report : Report)
  | sleep (delay : Duration)

/-- The machine. `words` are the random words that are left for cuts of waits. -/
structure Supervisor (β τ : Type) where
  position : Position
  session : UInt64
  failures : UInt32
  words : List UInt64
  hub : Hub β τ

namespace Supervisor

variable {β τ : Type}

def start (words : List UInt64) (memory : τ) : Supervisor β τ :=
  ⟨.idle, 0, 0, words, .start memory⟩

/-! ## Reactions -/

/-- The machine with other totals. -/
def count (f : Counters → Counters) (s : Supervisor β τ) : Supervisor β τ :=
  { s with hub := { s.hub with counters := f s.hub.counters } }

/-- Goes to a position. -/
def moveTo (position : Position) (s : Supervisor β τ) : Supervisor β τ × List Effect :=
  ({ s with position }, [])

/-- Goes to a position and shows a phase. -/
def enter (position : Position) (phase : Phase) (s : Supervisor β τ) :
    Supervisor β τ × List Effect :=
  ({ s with position, hub := { s.hub with phase } }, [.phase phase])

/-- Ends in good order. -/
def finish (outcome : Except FatalError Unit) (s : Supervisor β τ) : Supervisor β τ × List Effect :=
  s.enter (.ended (.finished outcome)) .stopped

/-- A new round: the phase is shown before the session begins. -/
def beginRound (s : Supervisor β τ) : Supervisor β τ × List Effect :=
  s.enter .beginning (.bootstrapping s.failures)

/-- Begins a session. -/
def beginSession (s : Supervisor β τ) : Supervisor β τ × List Effect :=
  let s := s.count fun c => { c with sessionsStarted := c.sessionsStarted + 1 }
  ({ s with position := .connecting, session := Saturating.next64 s.session }, [.connect])

/-- Ends the session by a failure. A final failure, or one too many in a row, is the end; any other
is followed by a wait. -/
def fail (policy : Backoff) (e : SourceError) (s : Supervisor β τ) : Supervisor β τ × List Effect :=
  if e.isRetryable then
    let s := { s with failures := Saturating.next32 s.failures }
    let s := s.count fun c => { c with retryableFailures := c.retryableFailures + 1 }
    if policy.allowsRetry s.failures then
      let (delay, words) := policy.delay (s.failures - 1) s.words
      let (s, effects) := { s with words }.enter .sleeping (.backoff s.failures delay)
      (s, effects ++ [Effect.sleep delay])
    else s.finish (.error (.retriesExhausted s.failures e))
  else s.finish (.error (.nonRetryable e))

/-- Publishes the first snapshot of a session. -/
def publishFirst (b : Bootstrap) (s : Supervisor β τ) : Supervisor β τ × List Effect :=
  let first := { Snapshot.initial b with session := s.session }
  ({ s with position := .subscribing first, hub := s.hub.store first }, [.store first])

/-- Publishes the snapshot that an update made: it is stored, and then the subscribers are called.
An accepted update ends the row of failures. -/
def accept (subscription : Subscription β τ) (next : Snapshot) (s : Supervisor β τ) :
    Supervisor β τ × List Effect :=
  let s := s.count fun c => { c with snapshotsPublished := c.snapshotsPublished + 1 }
  let (hub, report) := (s.hub.store next).notify subscription next
  ({ s with position := .streaming next, failures := 0, hub }, [.store next, .notify next report])

/-- Takes a message of the subscription. A late one is dropped and counted. -/
def receive (policy : Backoff) (subscription : Subscription β τ) (current : Snapshot)
    (m : EntitiesMessage) (s : Supervisor β τ) : Supervisor β τ × List Effect :=
  match Update.ofMessage m with
  | .error e => s.fail policy e
  | .ok update =>
    match current.apply update with
    | .ok next => s.accept subscription next
    | .error (.stale ..) =>
      (s.count fun c => { c with staleUpdates := c.staleUpdates + 1 }, [])
    | .error e@(.unknownRoom _) => s.fail policy (.protocol e.message)

/-! ## Polling -/

/-- Takes what the machine waited for. An event for which it does not wait changes nothing. -/
def take (settings : SyncSettings) (subscription : Subscription β τ) (e : Event)
    (s : Supervisor β τ) : Supervisor β τ × List Effect :=
  let orFail {α : Type} (result : Except SourceError α)
      (next : α → Supervisor β τ × List Effect) : Supervisor β τ × List Effect :=
    match result with
    | .ok a => next a
    | .error e => s.fail settings.policy e
  match s.position, e with
  | .connecting, .connected result => orFail result.ofConnect fun _ => s.moveTo .listing
  | .connecting, .panicked detail => s.moveTo (.ended (.crashed detail))
  | .listing, .listed result =>
    orFail (result.ofRequest "ListRooms" settings.requestTimeout) fun rooms =>
      s.moveTo (.placing rooms)
  | .placing rooms, .placed result =>
    orFail (result.ofRequest "GetRoomLayout" settings.requestTimeout) fun layout =>
      orFail (Bootstrap.ofReplies rooms layout) fun b => s.publishFirst b
  | .subscribing current, .subscribed result =>
    orFail (result.ofRequest "SubscribeEntities" settings.requestTimeout) fun _ =>
      s.enter (.streaming current) (.streaming s.session)
  | .streaming current, .item (some item) =>
    orFail item fun m => s.receive settings.policy subscription current m
  | .streaming _, .item none => s.fail settings.policy .streamEnded
  | .sleeping, .woken => s.beginRound
  | _, _ => (s, [])

/-- Ends on request. A machine that has never been polled shows its first phase all the same. -/
def stop (s : Supervisor β τ) : Supervisor β τ × List Effect :=
  match s.position with
  | .ended _ => (s, [])
  | .idle =>
    let (s, first) := s.beginRound
    let (s, last) := s.finish (.ok ())
    (s, first ++ last)
  | _ => s.finish (.ok ())

/-- One poll. -/
def poll (settings : SyncSettings) (subscription : Subscription β τ) (stopping : Bool)
    (ready : Option Event) (s : Supervisor β τ) : Supervisor β τ × List Effect :=
  if stopping then s.stop
  else
    match s.position, ready with
    | .idle, _ => s.beginRound
    | .beginning, _ => s.beginSession
    | _, some e => s.take settings subscription e
    | _, none => (s, [])

end Supervisor

/-! ## The owner -/

/-- What the owner of a machine is told about its end. Machines have no numbers, so a crash names
none. -/
def Ending.report : Ending → Except ManagerError Unit
  | finished (.ok ()) => .ok ()
  | finished (.error e) => .error (.fatal e)
  | crashed detail => .error (.task s!"task N panicked with message {Text.quoted detail}")

/-- The owner of a machine. It waits for the end until that has been reported. -/
structure Manager where
  waiting : Bool
  deriving DecidableEq

namespace Manager

def start : Manager := ⟨true⟩

/-- Asks for the end: the report, if there is one by now. The end is reported once; after that the
answer is that all is well. -/
def stopped (ending : Option Ending) (m : Manager) : Option (Except ManagerError Unit) × Manager :=
  if m.waiting then
    match ending with
    | some e => (some e.report, ⟨false⟩)
    | none => (none, m)
  else (some (.ok ()), m)

def shape {β τ : Type} (h : Hub β τ) (m : Manager) : String :=
  "StateManager \x7b world: " ++ h.shape ++ ", running: " ++ toString m.waiting ++ " \x7d"

end Manager

/-- How the machine has ended, if it has. -/
def Position.ending? : Position → Option Ending
  | .ended e => some e
  | _ => none

end HexWorld
