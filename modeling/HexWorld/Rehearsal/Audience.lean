import HexWorld.Relay.Client
import HexWorld.Sync.Hub

/-!
# The audience of a rehearsal

Those who watch a world while it is rehearsed: subscribers that behave in one fixed way and note
their calls, and the stream clients of a relay, which is one more subscriber.

## Contents
- `Listener`, a subscriber; `Peer`, a stream client and its end of the connection.
- `Audience`, what they remember; `Audience.subscription`, how they behave.
-/

namespace HexWorld.Rehearsal

/-- How a subscriber behaves after it has noted its call. -/
inductive Manner where
  | handle
  | fail
  | panic
  /-- Fails when the world time is even. -/
  | failEven
  /-- Removes a subscriber, given by its place among all that were ever registered. -/
  | remove (place : Nat)

/-- A subscriber. -/
inductive Listener where
  /-- The relay of a hub to its stream clients. -/
  | relay
  | noted (name : String) (manner : Manner)

/-- A stream client, seen from both ends. -/
structure Peer where
  name : String
  client : Client
  /-- What the client has sent and the relay has not read. -/
  inbox : List Wake
  /-- What has reached the client. -/
  outbox : List Outbound
  /-- The client has said that it will send no more. -/
  isDone : Bool
  /-- The client has vanished. -/
  isGone : Bool
  /-- The number of the request for terrain that the connection waits for. -/
  call : Option Nat

/-- What subscribers remember. -/
structure Audience where
  log : List String
  /-- The numbers of all subscribers that were ever registered by a step. -/
  handles : List UInt64
  /-- How many snapshots are kept for a stream client. -/
  capacity : Nat
  peers : List Peer

namespace Audience

def empty : Audience := ⟨[], [], 1, []⟩

/-- Notes a line. -/
def note (line : String) (a : Audience) : Audience :=
  { a with log := a.log ++ [line] }

/-- Sends a snapshot to all stream clients. -/
def broadcast (s : Snapshot) (a : Audience) : Audience :=
  { a with peers := a.peers.map fun p =>
      { p with client := { p.client with receiver := p.client.receiver.push a.capacity s } } }

/-- The line about a call. -/
def callLine (name : String) (current : Option Snapshot) (s : Snapshot) : String :=
  let now := match current with
    | some c => toString c.worldTime.toInt
    | none => "none"
  s!"{name}: time {s.worldTime.toInt} session {s.session.toNat} current {now}"

/-- How subscribers behave. -/
def subscription : Subscription Listener Audience := fun current s e (registry, a) =>
  match e.subscriber with
  | .relay => ((registry, a.broadcast s), .handled)
  | .noted name manner =>
    let a := a.note (callLine name current s)
    match manner with
    | .handle => ((registry, a), .handled)
    | .fail => ((registry, a), .failed)
    | .panic => ((registry, a), .panicked)
    | .failEven => ((registry, a), if s.worldTime % 2 = 0 then .failed else .handled)
    | .remove place =>
      let registry := match a.handles[place]? with
        | some id => (registry.deregister id).2
        | none => registry
      ((registry, a), .handled)

/-! ## Stream clients -/

/-- The clients whose connection is open. -/
def clientCount (a : Audience) : Nat :=
  a.peers.countP (·.client.isOpen)

/-- A new client. -/
def connect (name : String) (a : Audience) : Audience :=
  { a with peers := a.peers ++ [⟨name, .connect, [], [], false, false, none⟩] }

/-- The place of the client that has used a name last. -/
def place? (name : String) (a : Audience) : Option Nat :=
  (List.range a.peers.length).reverse.find? fun i => (a.peers[i]?.any (·.name = name))

/-- Takes the lines that were noted, and what has reached each client that was sent something. -/
def harvest (a : Audience) : (List String × List (String × List Outbound)) × Audience :=
  let received := (a.peers.filter fun p => !p.outbox.isEmpty).map fun p => (p.name, p.outbox)
  ((a.log, received),
    { a with log := [], peers := a.peers.map fun p => { p with outbox := [] } })

def modify (i : Nat) (f : Peer → Peer) (a : Audience) : Audience :=
  { a with peers := a.peers.modify i f }

end Audience

end HexWorld.Rehearsal
