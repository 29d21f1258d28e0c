import HexWorld.Bus.Connector
import HexWorld.Rehearsal.Source

/-!
# A scripted bus

A bus that replies to requests as a script says, with a source behind it. It may refuse those who
connect, leave requests unanswered, and hang up; and the client's end of a connection may break
while the bus knows nothing of it.

## Contents
- `ReplyScript`, `Sent`, `Link`: replies, and connections with what was sent on them.
- `Broker`, a bus in use, as a `Source`.
- `Broker.publish`, `Broker.hangUpAll`, `Broker.stall`, `Broker.abandon`: what is done to the bus and
  to connections.
-/

namespace HexWorld.Rehearsal

/-- What a bus does about a request. -/
inductive ReplyScript where
  | payload (bytes : List UInt8)
  /-- Nobody listens on the subject. -/
  | nobody
  | silence
  /-- The bus closes the connection, and lets nobody in any more. -/
  | hangUp

/-- What was sent to the bus. -/
inductive Sent where
  | request (subject payload : String)
  | subscription (subject : String)
  deriving DecidableEq

namespace Sent

def text : Sent → String
  | request subject payload =>
    if payload.isEmpty then s!"REQ {subject}" else s!"REQ {subject} {payload}"
  | subscription subject => s!"SUB {subject}"

def isSubscription : Sent → Bool
  | request .. => false
  | subscription _ => true

end Sent

/-- What has become of a connection. -/
inductive LinkState where
  | up
  /-- The bus has hung up; the client goes on trying to connect again. -/
  | cut
  /-- The client's end does not work any more. -/
  | broken
  deriving DecidableEq

/-- A connection that was asked for. -/
structure Link where
  role : Role
  isAdmitted : Bool
  state : LinkState
  /-- The client has been told that the connection was lost. -/
  isLost : Bool
  sent : List Sent
  feed : Option EntityFeed

namespace Link

def admitted (role : Role) : Link := ⟨role, true, .up, false, [], none⟩

def refused (role : Role) : Link := ⟨role, false, .broken, false, [], none⟩

def record (s : Sent) (l : Link) : Link :=
  { l with sent := l.sent ++ [s] }

/-- Something happens to the subscription. -/
def happen (e : LinkEvent) (l : Link) : Link :=
  { l with feed := l.feed.map (·.take e) }

/-- The bus hangs up. A broken end does not learn of it. -/
def cut (l : Link) : Link :=
  match l.state with
  | .up => { l.happen .disconnected with state := .cut, isLost := true }
  | .cut | .broken => l

end Link

/-- A bus in use. -/
structure Broker where
  connector : Connector
  /-- The port of this machine on which the bus is reached. -/
  port : Nat
  /-- Why nobody is let in, if so. -/
  barred : Option ConnectFault
  replies : List (String × List ReplyScript)
  /-- How many requests there were on a subject so far. -/
  asked : List (String × Nat)
  links : Array Link

namespace Broker

/-- A bus that nobody has used. -/
def start (connector : Connector) (port : Nat) (barred : Option ConnectFault)
    (replies : List (String × List ReplyScript)) : Broker :=
  ⟨connector, port, barred, replies, [], #[]⟩

/-- What has become of a connection. -/
def state (n : Nat) (b : Broker) : LinkState :=
  b.links[n]?.elim .broken fun l => l.state

def modifyLink (n : Nat) (f : Link → Link) (b : Broker) : Broker :=
  { b with links := b.links.modify n f }

/-! ## Connecting -/

/-- Whether an endpoint is this bus, which talks in the clear only. -/
def isReachedBy (b : Broker) (e : Endpoint) : Bool :=
  let here := ["127.0.0.1", "localhost"].any fun host => host.toList = e.host
  e.scheme = .plain && here && e.port.getD Endpoint.defaultPort = b.port

/-- How opening a connection ends. -/
def admission (b : Broker) : Except SourceError Unit := do
  let endpoint ← b.connector.endpoint
  if !b.isReachedBy endpoint then throw (b.connector.connectError .io)
  match b.barred with
  | some fault => throw (b.connector.connectError fault)
  | none => return

def connect (role : Role) (b : Broker) : Timed Opening × Nat × Broker :=
  let result := b.admission
  let link := match result with
    | .ok () => Link.admitted role
    | .error _ => .refused role
  (.atOnce (.opened result), b.links.size, { b with links := b.links.push link })

/-! ## Asking -/

/-- The reply to the next request on a subject, which is counted. The last reply of a script is
repeated. -/
def nextReply (subject : String) (b : Broker) : ReplyScript × Broker :=
  let count := (b.asked.lookup subject).getD 0
  let reply := match b.replies.lookup subject with
    | none => .nobody
    | some script => script[count]?.getD (script.getLast?.getD .nobody)
  (reply, { b with asked := (subject, count + 1) :: b.asked.filter fun a => a.1 != subject })

/-- Nothing comes until the request times out. -/
def unanswered {α : Type} (i : Inquiry) (b : Broker) : Timed (Except SourceError α) :=
  ⟨some b.connector.requestTimeout.toMillis, .error (.ofRequest i.operation "" .timedOut)⟩

/-- Sends a request on a connection. -/
def ask {α : Type} (body? : Json.Value → Option α) (i : Inquiry) (n : Nat) (b : Broker) :
    Timed (Except SourceError α) × Broker :=
  match b.state n with
  | .up =>
    let subject := i.subject b.connector.subjects
    let (reply, asked) := b.nextReply subject
    let asked := asked.modifyLink n (·.record (.request subject i.payload))
    match reply with
    | .payload bytes => (.atOnce (Connector.reply body? i bytes), asked)
    | .nobody => (.atOnce (.error (.ofRequest i.operation "" .noResponders)), asked)
    | .silence => (b.unanswered i, asked)
    | .hangUp => (b.unanswered i, { asked with barred := some .io }.modifyLink n Link.cut)
  | .cut => (b.unanswered i, b)
  | .broken => (.atOnce (.error (.ofRequest i.operation "request failed" .other)), b)

/-! ## Subscribing -/

/-- Subscribes on a connection. A new subscription takes the place of an earlier one. -/
def subscribe (n : Nat) (b : Broker) : Timed (Except SourceError Unit) × Broker :=
  let renewed (l : Link) : Link := { l with feed := some (.ofLink l.isLost) }
  match b.state n with
  | .up =>
    (.atOnce (.ok ()),
      b.modifyLink n fun l => (renewed l).record (.subscription b.connector.subjects.entities))
  | .cut => (.atOnce (.ok ()), b.modifyLink n renewed)
  | .broken => (.atOnce (.error b.connector.subscribeError), b)

/-- Takes what the subscription of a connection yields by now. -/
def arrivals (n : Nat) (b : Broker) : Arrivals × Broker :=
  match b.links[n]?.bind (·.feed) with
  | some feed =>
    let (items, feed) := feed.drain
    (⟨items, feed.hasEnded⟩, b.modifyLink n fun l => { l with feed := some feed })
  | none => (⟨[], true⟩, b)

instance : Source Broker where
  connect := connect
  listRooms n b := b.ask RoomList.ofJson? .rooms n
  layout n b := b.ask LayoutReply.ofJson? .layout n
  terrain n room b := b.ask (TerrainReply.ofJson? .inReply) (.terrain room) n
  subscribe n b := b.subscribe n
  arrivals n b := b.arrivals n
  close n b := b.modifyLink n fun l => { l with state := .broken, feed := none }

/-! ## What happens to the bus -/

/-- Sends a payload to all who have subscribed to a subject. -/
def publish (subject : String) (payload : List UInt8) (b : Broker) : Broker :=
  if subject = b.connector.subjects.entities then
    { b with links := b.links.map fun l =>
        if l.state = .up then l.happen (.message payload) else l }
  else b

/-- The bus hangs up on everybody, and lets nobody in any more. -/
def hangUpAll (b : Broker) : Broker :=
  { b with barred := some .io, links := b.links.map Link.cut }

/-- What drives the client's end of a connection stops; nothing is sent or received any more, and
nobody is told. -/
def stall (n : Nat) (b : Broker) : Broker :=
  b.modifyLink n fun l => { l.happen .closed with state := .broken }

/-- All that works for the client's end of a connection is gone, the handler of its events too. -/
def abandon (n : Nat) (b : Broker) : Broker :=
  b.modifyLink n fun l => { l.happen .unwatched with state := .broken }

/-- The connections that the bus has let in. -/
def admittedLinks (b : Broker) : List Link :=
  b.links.toList.filter (·.isAdmitted)

/-- The number of subscriptions so far. -/
def subscriptionCount (b : Broker) : Nat :=
  b.links.foldl (fun n l => n + l.sent.countP Sent.isSubscription) 0

end Broker

end HexWorld.Rehearsal
