import HexWorld.RoomMap
import HexWorld.Rehearsal.Source

/-!
# Scripted sources

A source that follows a script. Each connection for a stream plays the next session; connections
for requests share a table of terrain and use up no session. When all sessions are played, opening
a connection is refused.

## Contents
- `SessionScript`, `TerrainScript`, `Plan`: the parts of a script.
- `Script`, a script being played, as a `Source`.
- `Script.send`, `Script.finish`: what is done to the live feed of a session.
-/

namespace HexWorld.Rehearsal

/-- An item of a subscription. -/
abbrev Item := Except SourceError EntitiesMessage

/-- The subscription of a session. -/
structure Feed where
  items : List Item
  /-- More may follow. -/
  isOpen : Bool
  /-- Items can be sent to it while the script is played. -/
  isLive : Bool
  /-- Somebody may still take items from it. -/
  isHeld : Bool

namespace Feed

/-- Nothing at all. -/
def ended : Feed := ⟨[], false, false, true⟩

/-- Nothing yet. -/
def live : Feed := ⟨[], true, true, true⟩

/-- Goes on in silence after the last item. -/
def hold (f : Feed) : Feed :=
  if f.isLive then f else { f with isOpen := true }

/-- Yields these items. A feed that was live is not any more, and ends. -/
def deliver (items : List Item) (f : Feed) : Feed :=
  ⟨items, !f.isLive && f.isOpen, false, f.isHeld⟩

end Feed

/-- What a connection for a stream plays. -/
inductive SessionScript where
  | refuse (e : SourceError)
  | serve (rooms : RoomList) (layout : LayoutReply)

/-- The answer about the terrain of a room. -/
structure TerrainScript where
  delay : Option Nat
  result : Except SourceError TerrainReply

/-- The delays of a connection, and how opening it goes wrong. -/
structure Plan where
  connect : Option Nat
  rooms : Option Nat
  layout : Option Nat
  subscribe : Option Nat
  refuse : Option SourceError
  panic : Option String

/-- Everything at once. -/
def Plan.prompt : Plan := ⟨some 0, some 0, some 0, some 0, none, none⟩

/-- A connection that has been begun, and the session that it plays. -/
structure Connection where
  plan : Plan
  session : Option Nat
  rooms : RoomList
  layout : LayoutReply
  subscribed : Bool

/-- A script being played. Sessions have their feeds in `feeds`. -/
structure Script where
  sessions : List SessionScript
  feeds : List Feed
  terrain : RoomMap TerrainScript
  streamPlans : List Plan
  requestPlans : List Plan
  streamConnects : Nat
  requestConnects : Nat
  connections : Array Connection

namespace Script

/-- A script that has not been played yet. -/
def start (sessions : List (SessionScript × Feed)) (terrain : RoomMap TerrainScript)
    (streamPlans requestPlans : List Plan) : Script where
  sessions := sessions.map (·.1)
  feeds := sessions.map (·.2)
  terrain
  streamPlans
  requestPlans
  streamConnects := 0
  requestConnects := 0
  connections := #[]

/-- Begins a connection. A plan's failure goes before the outcome of the session. -/
def begin (plan : Plan) (result : Except SourceError Unit) (connection : Connection) (s : Script) :
    Timed Opening × Nat × Script :=
  let opening := match plan.panic, plan.refuse with
    | some detail, _ => .panicked detail
    | none, some e => .opened (.error e)
    | none, none => .opened result
  (⟨plan.connect, opening⟩, s.connections.size,
    { s with connections := s.connections.push connection })

/-- Plays the next session. -/
def connectStream (s : Script) : Timed Opening × Nat × Script :=
  let n := s.streamConnects
  let plan := s.streamPlans[n]?.getD .prompt
  let s := { s with streamConnects := n + 1 }
  let closed (session : Option Nat) : Connection := ⟨plan, session, ⟨[]⟩, ⟨[]⟩, false⟩
  match s.sessions[n]? with
  | none =>
    s.begin plan (.error (.unavailable "scripted source has no session left")) (closed none)
  | some (SessionScript.refuse e) => s.begin plan (.error e) (closed (some n))
  | some (SessionScript.serve rooms layout) =>
    s.begin plan (.ok ()) ⟨plan, some n, rooms, layout, false⟩

/-- A connection for requests has no rooms and no subscription. -/
def connectRequests (s : Script) : Timed Opening × Nat × Script :=
  let plan := s.requestPlans[s.requestConnects]?.getD .prompt
  let s := { s with requestConnects := s.requestConnects + 1 }
  s.begin plan (.ok ()) ⟨plan, none, ⟨[]⟩, ⟨[]⟩, false⟩

/-- The plan of a connection. -/
def plan (n : Nat) (s : Script) : Plan :=
  (s.connections[n]?.map (·.plan)).getD .prompt

/-- The session of a connection that has a feed nobody has taken or given up. -/
def feedOf? (n : Nat) (s : Script) : Option Nat :=
  s.connections[n]?.bind (·.session)

/-- A feed can be taken once. -/
def subscribe (n : Nat) (s : Script) : Timed (Except SourceError Unit) × Script :=
  match s.connections[n]? with
  | some ⟨plan, some session, rooms, layout, false⟩ =>
    let taken : Connection := ⟨plan, some session, rooms, layout, true⟩
    (⟨plan.subscribe, .ok ()⟩, { s with connections := s.connections.modify n fun _ => taken })
  | _ => (⟨(s.plan n).subscribe, .error (.protocol "connection already subscribed")⟩, s)

/-- Changes the feed of a connection. -/
def modifyFeed (n : Nat) (f : Feed → Feed) (s : Script) : Script :=
  match s.feedOf? n with
  | some session => { s with feeds := s.feeds.modify session f }
  | none => s

/-- Takes everything that waits in the feed. -/
def arrivals (n : Nat) (s : Script) : Arrivals × Script :=
  match (s.feedOf? n).bind (s.feeds[·]?) with
  | some feed => (⟨feed.items, !feed.isOpen⟩, s.modifyFeed n fun f => { f with items := [] })
  | none => (⟨[], true⟩, s)

def terrainReply (room : RoomId) (s : Script) : Timed (Except SourceError TerrainReply) :=
  match s.terrain.find? room with
  | some t => ⟨t.delay, t.result⟩
  | none => .atOnce (.error (.roomNotFound room))

instance : Source Script where
  connect
    | .stream, s => s.connectStream
    | .requests, s => s.connectRequests
  listRooms n s :=
    (⟨(s.plan n).rooms, .ok (s.connections[n]?.elim ⟨[]⟩ (·.rooms))⟩, s)
  layout n s :=
    (⟨(s.plan n).layout, .ok (s.connections[n]?.elim ⟨[]⟩ (·.layout))⟩, s)
  terrain _ room s := (s.terrainReply room, s)
  subscribe n s := s.subscribe n
  arrivals n s := s.arrivals n
  close n s := s.modifyFeed n fun f => { f with isHeld := false }

/-! ## Live feeds -/

/-- Sends an item to the feed of a session; the answer is whether somebody may take it. -/
def send (session : Nat) (item : Item) (s : Script) : Bool × Script :=
  match s.feeds[session]? with
  | some feed =>
    if feed.isLive && feed.isOpen && feed.isHeld then
      let extended : Feed := { feed with items := feed.items ++ [item] }
      (true, { s with feeds := s.feeds.modify session fun _ => extended })
    else (false, s)
  | none => (false, s)

/-- Nothing more will be sent to the feed of a session. -/
def finish (session : Nat) (s : Script) : Script :=
  { s with feeds := s.feeds.modify session fun f =>
      if f.isLive then { f with isOpen := false } else f }

end Script

end HexWorld.Rehearsal
