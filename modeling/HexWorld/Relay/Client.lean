import HexWorld.Relay.Broadcast
import HexWorld.Relay.Frame

/-!
# Stream clients

One connection of a stream client, as a machine. The client selects a room by sending its id as a
text; it gets the terrain and the entities of the room, and after that the entities of every
published snapshot. A client that lags behind goes on with the newest snapshot.

Selecting a room takes three steps, since the terrain is asked of the source and every frame has to
be handed over before the next one is made. Catching up after a loss takes two: first everything that
was sent is passed over, and only then the newest snapshot is looked up, so what is published in
between is not missed.

## Contents
- `ClientStage`, `Client`.
- `Wake`, what wakes a connection; `Outbound`, what goes to the client.
- `Client.step`: one wake.
-/

namespace HexWorld

/-- Where a connection stands. -/
inductive ClientStage where
  | attending
  /-- Snapshots were missed and the rest has been passed over; the newest one is next. -/
  | skipping
  /-- A room was selected and its terrain asked for. -/
  | fetching (room : RoomId)
  /-- The terrain has been sent, and the entities are next. -/
  | describing (room : RoomId)
  | closed
  deriving DecidableEq

/-- The connection of a client. -/
structure Client where
  selected : Option RoomId
  stage : ClientStage
  receiver : Receiver
  deriving DecidableEq

/-- What wakes a connection. The last three come only while an earlier wake is being handled. -/
inductive Wake where
  | relayed (s : Snapshot)
  | lagged (missed : Nat)
  | text (t : String)
  | ping (data : String)
  /-- A message that means nothing here. -/
  | other
  | closed
  /-- The receiver has passed over what it held. -/
  | skipped
  | terrain (result : Except QueryError (List TerrainTile))
  | sent

/-- What goes to a client. -/
inductive Outbound where
  | frame (f : Frame)
  | pong (data : String)
  deriving DecidableEq

namespace Client

/-- A client that has just connected. It gets what is published from now on. -/
def connect : Client := ⟨none, .attending, .empty⟩

def isOpen (c : Client) : Bool :=
  c.stage != .closed

/-- The frame with the entities of a room, or with the reason why there are none. -/
def entitiesFrame : Except QueryError RoomObjects → Frame
  | .ok view => .entities view
  | .error e => .error e.message

/-- The frames that a snapshot causes: none without entities. -/
def entitiesOf (s : Snapshot) (room : RoomId) : Option Outbound :=
  match s.roomObjects room with
  | .ok view => some (.frame (.entities view))
  | .error .notInitialized => none
  | .error e => some (.frame (.error e.message))

/-- Hands something over and goes to a stage. Whoever cannot be reached is gone. -/
def send (reachable : Bool) (stage : ClientStage) (out : Option Outbound) (c : Client) :
    Client × Option Outbound :=
  match out with
  | none => ({ c with stage }, none)
  | some out =>
    if reachable then ({ c with stage }, some out) else ({ c with stage := .closed }, none)

/-- Reacts to a text: a room id selects a room. -/
def select (reachable : Bool) (t : String) (c : Client) : Client × Option Outbound :=
  match RoomId.parse (String.ofList (Text.trim t.toList)) with
  | .ok room => ({ c with selected := some room, stage := .fetching room }, none)
  | .error e => c.send reachable .attending (some (.frame (.error e.message)))

/-- One wake. `current` is the latest published snapshot, and `reachable` tells whether the client
takes what is sent to it. A wake that does not fit the stage changes nothing. -/
def step (current : Option Snapshot) (reachable : Bool) (w : Wake) (c : Client) :
    Client × Option Outbound :=
  match c.stage, w with
  | .attending, .relayed s =>
    c.send reachable .attending (c.selected.bind (entitiesOf s))
  | .attending, .lagged _ => ({ c with receiver := c.receiver.skip, stage := .skipping }, none)
  | .skipping, .skipped =>
    c.send reachable .attending do entitiesOf (← current) (← c.selected)
  | .attending, .text t => c.select reachable t
  | .attending, .ping data => c.send reachable .attending (some (.pong data))
  | .attending, .other => (c, none)
  | .attending, .closed => ({ c with stage := .closed }, none)
  | .fetching room, .terrain result =>
    let frame := match result with
      | .ok tiles => .terrain room tiles
      | .error e => .error e.message
    c.send reachable (.describing room) (some (.frame frame))
  | .describing room, .sent =>
    let view := Snapshot.latestObjects current room
    c.send reachable .attending (some (.frame (entitiesFrame view)))
  | _, _ => (c, none)

/-- Takes the next thing from the receiver, as a wake. -/
def receive? (c : Client) : Option (Wake × Client) :=
  c.receiver.receive?.map fun (received, receiver) =>
    let wake := match received with
      | .snapshot s => Wake.relayed s
      | .lagged missed => .lagged missed
    (wake, { c with receiver })

end Client

end HexWorld
