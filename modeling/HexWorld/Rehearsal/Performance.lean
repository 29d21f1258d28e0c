import HexWorld.Relay.Http
import HexWorld.Rehearsal.Audience
import HexWorld.Rehearsal.Source
import HexWorld.Sync.Supervisor
import HexWorld.Sync.TerrainSlot

/-!
# Rehearsing a world

A source, the machine that supervises it, the requests for terrain and the stream clients, together
on one clock that moves only when told to. Between two moves everybody does what can be done without
the clock.

The machine comes first: it takes everything that the source has for it before a stream client is
woken. What is due at the same moment happens in the order in which it was begun.

## Contents
- `Alarm`, `Performance`.
- `Performance.settle`: everything that needs no clock.
- `Performance.advance`, `Performance.waitFor`: moving the clock.
- `Performance.callTerrain` and what is asked of the owner of the machine.
-/

namespace HexWorld.Rehearsal

/-- What happens at a later moment. -/
inductive Alarm where
  /-- What the machine waits for comes. -/
  | supervision (e : Event)
  /-- A connection for terrain is opened, or not. -/
  | connected (call link : Nat) (result : Bounded Unit)
  | answered (call : Nat) (result : Bounded TerrainReply)

/-- A rehearsal. -/
structure Performance (σ : Type) where
  settings : SyncSettings
  source : σ
  now : Nat
  /-- What is to come, with its moment, in the order in which it will happen. -/
  alarms : List (Nat × Alarm)
  supervisor : Supervisor Listener Audience
  stopping : Bool
  /-- The owner of the machine, unless it has been given up. -/
  manager : Option Manager
  /-- What the machine waits for, if it has come. -/
  ready : Option Event
  /-- The connection of the session. -/
  connection : Nat
  slot : TerrainSlot
  /-- The connections of the source that belong to those of the slot. -/
  links : List Nat
  /-- The number of the relay among the subscribers. -/
  relay : Option UInt64
  /-- The relay stays only until its last stream client has left. -/
  leaving : Bool

namespace Performance

variable {σ : Type} [Source σ]

/-- Nothing has run yet. -/
def start (settings : SyncSettings) (source : σ) : Performance σ where
  settings
  source
  now := 0
  alarms := []
  supervisor := .start [] .empty
  stopping := false
  manager := some .start
  ready := none
  connection := 0
  slot := .empty
  links := []
  relay := none
  leaving := false

def hub (p : Performance σ) : Hub Listener Audience := p.supervisor.hub

def audience (p : Performance σ) : Audience := p.hub.memory

def setHub (hub : Hub Listener Audience) (p : Performance σ) : Performance σ :=
  { p with supervisor := { p.supervisor with hub } }

def modifyAudience (f : Audience → Audience) (p : Performance σ) : Performance σ :=
  p.setHub { p.hub with memory := f p.hub.memory }

/-- How the machine has ended, if it has. -/
def ending? (p : Performance σ) : Option Ending := p.supervisor.position.ending?

/-! ## The clock -/

/-- Puts an alarm after all that are due no later. -/
def insertAlarm (due : Nat) (alarm : Alarm) : List (Nat × Alarm) → List (Nat × Alarm)
  | [] => [(due, alarm)]
  | other :: rest =>
    if due < other.1 then (due, alarm) :: other :: rest else other :: insertAlarm due alarm rest

def schedule (delay : Nat) (alarm : Alarm) (p : Performance σ) : Performance σ :=
  { p with alarms := insertAlarm (p.now + delay) alarm p.alarms }

/-! ## The machine -/

/-- Has the machine wait for something that takes a while, or nothing at all. -/
def await (delay : Nat) (e : Event) (p : Performance σ) : Performance σ :=
  if delay = 0 then { p with ready := some e } else p.schedule delay (.supervision e)

/-- Asks the source something for the machine. -/
def request {α : Type} (ask : Nat → σ → Timed (Except SourceError α) × σ)
    (event : Bounded α → Event) (p : Performance σ) : Performance σ :=
  let (timed, source) := ask p.connection p.source
  let (delay, result) := timed.bounded p.settings.requestTimeout
  { p with source }.await delay (event result)

/-- Opens a connection for the machine. -/
def openStream (p : Performance σ) : Performance σ :=
  let (timed, connection, source) := Source.connect .stream p.source
  let opened : Timed Event := timed.map fun opening =>
    match opening with
    | .opened result => .connected (.answered result)
    | .panicked detail => .panicked detail
  let (delay, e) := opened.within p.settings.requestTimeout (.connected .elapsed)
  { p with source, connection }.await delay e

/-- Gives up the connection of the session. -/
def hangUp (p : Performance σ) : Performance σ :=
  { p with source := Source.close p.connection p.source }

/-- Whole milliseconds, begun ones included. -/
def millis (d : Duration) : Nat :=
  (d.nanos + 999999) / 1000000

/-- Has the machine polled, and does what it waits for next. -/
def poll (e : Option Event) (p : Performance σ) : Performance σ :=
  let (supervisor, effects) :=
    p.supervisor.poll p.settings Audience.subscription p.stopping e
  let p := { p with supervisor }
  match supervisor.position with
  | .connecting => p.openStream
  | .listing => p.request Source.listRooms .listed
  | .placing _ => p.request Source.layout .placed
  | .subscribing _ => p.request Source.subscribe .subscribed
  | .sleeping =>
    effects.foldl (fun p effect =>
      match effect with
      | .sleep delay => p.hangUp.await (millis delay) .woken
      | _ => p) p
  | .ended _ => p.hangUp
  | _ => p

/-- Has the machine take what its subscription yields. -/
def takeArrivals (p : Performance σ) : Option (Performance σ) :=
  let (arrivals, source) := Source.arrivals p.connection p.source
  if arrivals.items.isEmpty && !arrivals.ended then none
  else
    let last := if arrivals.ended then [Event.item none] else []
    let events := arrivals.items.map (fun i => Event.item (some i)) ++ last
    some <| events.foldl (fun p e =>
      match p.supervisor.position with
      | .streaming _ => p.poll (some e)
      | _ => p) { p with source }

/-- The next poll of the machine, if it has something to do. -/
def supervise? (p : Performance σ) : Option (Performance σ) :=
  match p.supervisor.position with
  | .ended _ => none
  | position =>
    if p.stopping then some (p.poll none)
    else
      match position, p.ready with
      | .idle, _ | .beginning, _ => some (p.poll none)
      | .streaming _, _ => p.takeArrivals
      | _, some e => some ({ p with ready := none }.poll (some e))
      | _, none => none

/-! ## Requests for terrain -/

def answered (n : Nat) (result : Bounded TerrainReply) (p : Performance σ) : Performance σ :=
  { p with slot := p.slot.answered p.settings.requestTimeout n result }

/-- Sends the request of a call that has a connection. -/
def askTerrain (n : Nat) (p : Performance σ) : Performance σ :=
  match p.slot.calls[n]? with
  | some ⟨room, .asking connection⟩ =>
    let link := p.links[connection]?.getD 0
    let (timed, source) := Source.terrain link room p.source
    let (delay, result) := timed.bounded p.settings.requestTimeout
    let p := { p with source }
    if delay = 0 then p.answered n result else p.schedule delay (.answered n result)
  | _ => p

def connected (n link : Nat) (result : Bounded Unit) (p : Performance σ) : Performance σ :=
  let slot := p.slot.connected n result
  let links := if p.slot.opened < slot.opened then p.links ++ [link] else p.links
  { p with slot, links }.askTerrain n

/-- Opens the connection of a call. -/
def openRequests (n : Nat) (p : Performance σ) : Performance σ :=
  let (timed, link, source) := Source.connect .requests p.source
  let opened := timed.map fun opening =>
    match opening with
    | .opened result => result
    | .panicked detail => .error (.unavailable detail)
  let (delay, result) := opened.bounded p.settings.requestTimeout
  let p := { p with source }
  if delay = 0 then p.connected n link result else p.schedule delay (.connected n link result)

/-- Lets the next call take the lock of the slot. -/
def grant? (p : Performance σ) : Option (Performance σ) :=
  p.slot.grant?.map fun (n, slot) =>
    let p := { p with slot }
    match slot.stage? n with
    | some .connecting => p.openRequests n
    | some (.asking _) => p.askTerrain n
    | _ => p

/-! ## Stream clients -/

/-- The next wake of a client, and the client after taking it. -/
def wake? (slot : TerrainSlot) (peer : Peer) : Option (Wake × Peer) :=
  match peer.client.stage with
  | .closed => none
  | .skipping => some (.skipped, peer)
  | .describing _ => some (.sent, peer)
  | .fetching _ =>
    (peer.call.bind (slot.result? ·)).map fun result =>
      let result := result.mapError QueryError.ofSource
      (.terrain result, { peer with call := none })
  | .attending =>
    match peer.client.receive?, peer.inbox with
    | some (wake, client), _ => some (wake, { peer with client })
    | none, wake :: inbox => some (wake, { peer with inbox })
    | none, [] => if peer.isGone then some (.closed, peer) else none

/-- Wakes the client at a place. When it selects a room, the terrain is asked for. -/
def wakePeer (i : Nat) (w : Wake) (peer : Peer) (p : Performance σ) : Performance σ :=
  let (client, out) := peer.client.step p.hub.current (!peer.isGone) w
  let peer := { peer with client, outbox := peer.outbox ++ out.toList }
  match client.stage, peer.call, w with
  | .fetching room, none, .text _ =>
    let (n, slot) := p.slot.call room
    { p with slot }.modifyAudience (·.modify i fun _ => { peer with call := some n })
  | _, _, _ => p.modifyAudience (·.modify i fun _ => peer)

/-- Wakes the first client that has something to do. -/
def attend? (p : Performance σ) : Option (Performance σ) :=
  (List.range p.audience.peers.length).findSome? fun i => do
    let peer ← p.audience.peers[i]?
    let (w, peer) ← wake? p.slot peer
    return p.wakePeer i w peer

/-- The relay leaves when nobody holds it any more. -/
def release? (p : Performance σ) : Option (Performance σ) :=
  match p.relay with
  | some id =>
    if p.leaving && p.audience.clientCount == 0 then
      some <| { p with relay := none }.setHub
        { p.hub with registry := (p.hub.registry.deregister id).2 }
    else none
  | none => none

/-! ## Moving on -/

/-- Does what needs no clock, at most so many things. -/
def settleUpTo : Nat → Performance σ → Performance σ
  | 0, p => p
  | n + 1, p =>
    match p.supervise? <|> p.grant? <|> p.attend? <|> p.release? with
    | some p => settleUpTo n p
    | none => p

/-- A world without any wait between failures never comes to rest, so there is a limit. -/
def settle (p : Performance σ) : Performance σ :=
  p.settleUpTo 1000000

/-- The first alarm goes off if it is due by a moment. -/
def ring? (limit : Nat) (p : Performance σ) : Option (Performance σ) :=
  match p.alarms with
  | [] => none
  | (due, alarm) :: alarms =>
    if due ≤ limit then
      let p := { p with now := max p.now due, alarms }
      match alarm with
      | .supervision e => some { p with ready := some e }
      | .connected n link result => some (p.connected n link result)
      | .answered n result => some (p.answered n result)
    else none

/-- Moves the clock to a moment, or only as far as `isOver` requires; looks a given number of times
at most. -/
def moveTo (isOver : Performance σ → Bool) (limit : Nat) : Nat → Performance σ → Performance σ
  | 0, p => p
  | steps + 1, p =>
    if isOver p then p
    else
      match p.ring? limit with
      | some p => moveTo isOver limit steps p.settle
      | none => { p with now := max p.now limit }

/-- Lets milliseconds pass. -/
def advance (ms : Nat) (p : Performance σ) : Performance σ :=
  p.moveTo (fun _ => false) (p.now + ms) 1000000

/-- Lets time pass until something is over, but no more than so many milliseconds. -/
def waitFor (isOver : Performance σ → Bool) (ms : Nat) (p : Performance σ) : Performance σ :=
  if isOver p then p else p.settle.moveTo isOver (p.now + ms) 1000000

/-- The milliseconds for which a phase is waited for. -/
def patience : Nat := 60000

/-- Waits for a phase, or for the end. -/
def waitForPhase (tag : String) (p : Performance σ) : Performance σ :=
  p.waitFor (fun p => p.hub.phase.tag = tag || p.ending?.isSome) patience

/-! ## What is asked -/

/-- Begins a call for terrain, and takes it as far as it gets without the clock. -/
def beginCall (room : RoomId) (p : Performance σ) : Nat × Performance σ :=
  let (n, slot) := p.slot.call room
  (n, grantAll 1000 { p with slot })
where
  grantAll : Nat → Performance σ → Performance σ
    | 0, p => p
    | n + 1, p =>
      match p.grant? with
      | some p => grantAll n p
      | none => p

/-- No call takes longer than this. -/
def longest : Nat := 1000000000000

/-- Asks for the terrain of rooms, all at the same time, and waits for the results. -/
def callTerrain (rooms : List RoomId) (p : Performance σ) :
    List (Except QueryError (List TerrainTile)) × Performance σ :=
  let (calls, p) := rooms.foldl (fun (calls, p) room =>
    let (n, p) := p.beginCall room
    (calls ++ [n], p)) (([] : List Nat), p)
  let p := p.waitFor (fun p => calls.all fun n => (p.slot.result? n).isSome) longest
  (calls.filterMap fun n => (p.slot.result? n).map (·.mapError QueryError.ofSource), p)

/-- Registers a subscriber. -/
def register (listener : Listener) (p : Performance σ) : UInt64 × Performance σ :=
  let (id, registry) := p.hub.registry.register listener
  (id, p.setHub { p.hub with registry })

/-- Registers a subscriber whose number is remembered. -/
def enrol (name : String) (manner : Manner) (p : Performance σ) : UInt64 × Performance σ :=
  let (id, p) := p.register (.noted name manner)
  (id, p.modifyAudience fun a => { a with handles := a.handles ++ [id] })

/-- Removes the subscriber at a place among those remembered. -/
def dismiss (place : Nat) (p : Performance σ) : Bool × Performance σ :=
  match p.audience.handles[place]? with
  | none => (false, p)
  | some id =>
    let (found, registry) := p.hub.registry.deregister id
    (found, p.setHub { p.hub with registry })

/-- Attaches a relay that keeps at least one snapshot for each client. -/
def attach (requested : Nat) (p : Performance σ) : Performance σ :=
  let (id, p) := p.register .relay
  let capacity := Broadcast.capacity requested
  { p with relay := some id }.modifyAudience fun a => { a with capacity }

/-- Lets go of the relay, which stays as long as it has stream clients. -/
def dropRelay (p : Performance σ) : Performance σ :=
  { p with leaving := true }

/-- Has a stream client send something, and tells whether it can. -/
def sendToRelay (name : String) (w : Wake) (p : Performance σ) : Bool × Performance σ :=
  match p.audience.place? name with
  | none => (false, p)
  | some i =>
    let isAble := p.audience.peers[i]?.any fun peer =>
      peer.client.isOpen && !peer.isDone && !peer.isGone
    let isLast := match w with
      | .closed => true
      | _ => false
    if isAble then
      (true, p.modifyAudience (·.modify i fun peer =>
        { peer with inbox := peer.inbox ++ [w], isDone := isLast }))
    else (false, p)

/-- Takes what the audience has noted and received. -/
def harvest (p : Performance σ) :
    (List String × List (String × List Outbound)) × Performance σ :=
  let (harvest, audience) := p.audience.harvest
  (harvest, p.modifyAudience fun _ => audience)

/-- Has a stream client vanish. -/
def dropPeer (name : String) (p : Performance σ) : Performance σ :=
  match p.audience.place? name with
  | none => p
  | some i => p.modifyAudience (·.modify i fun peer => { peer with isGone := true })

/-- Answers a request to the relay. -/
def respond (r : Request) (p : Performance σ) : Response × Performance σ :=
  match handle p.hub p.audience.clientCount r with
  | .respond response => (r.trim response, p)
  | .terrain room =>
    let (results, p) := p.callTerrain [room]
    let result := results.head?.getD (.error .notInitialized)
    (r.trim (.ofResult (terrainJson room) result), p)

/-- Asks the owner of the machine for the end. The outer option is empty if there is no owner, the
inner one if there is no end yet. -/
def stopped (p : Performance σ) : Option (Option (Except ManagerError Unit)) × Performance σ :=
  match p.manager with
  | none => (none, p)
  | some m =>
    let (report, m) := m.stopped p.ending?
    (some report, { p with manager := some m })

/-- Gives up the machine, which is asked to stop. -/
def dropManager (p : Performance σ) : Performance σ :=
  { p with stopping := true, manager := none }

/-- Asks the machine to stop and waits for the end. -/
def shutdown (p : Performance σ) : Option (Option (Except ManagerError Unit)) × Performance σ :=
  match p.manager with
  | none => (none, p)
  | some _ =>
    let (report, p) := { p with stopping := true }.settle.stopped
    (report, p.dropManager)

end Performance

end HexWorld.Rehearsal
