import HexWorld.Message.Decode

/-!
# Entity feeds

What a subscription on the bus yields. The client of the bus connects again by itself when it has
lost its connection, and the subscription goes on then; but messages may have been missed meanwhile,
so the feed reports the loss and ends, and whoever reads it starts all over.

A loss is told by a handler of connection events. What it has told stays told. If the handler itself
is gone, nobody would tell of a loss any more, which counts as one.

## Contents
- `LinkEvent`, what happens to a connection and its subscription.
- `EntityFeed`, with `ofLink`, `take` and `poll`.
-/

namespace HexWorld

/-- What happens to a connection and the subscription on it. -/
inductive LinkEvent where
  | message (payload : List UInt8)
  | disconnected
  | connected
  /-- The handler of connection events is gone. -/
  | unwatched
  /-- Nothing more will arrive. -/
  | closed
  deriving DecidableEq

/-- A feed, from the subscription to its end. -/
structure EntityFeed where
  /-- The payloads that have arrived and have not been read. -/
  pending : List (List UInt8)
  isClosed : Bool
  isLost : Bool
  hasEnded : Bool
  deriving DecidableEq

namespace EntityFeed

/-- The feed of a new subscription on a connection that may have been lost already. -/
def ofLink (isLost : Bool) : EntityFeed :=
  ⟨[], false, isLost, false⟩

/-- Something happens. Nothing arrives on a closed subscription, and a loss is not made up for by a
new connection. -/
def take (f : EntityFeed) : LinkEvent → EntityFeed
  | .message payload => if f.isClosed then f else { f with pending := f.pending ++ [payload] }
  | .disconnected | .unwatched => { f with isLost := true }
  | .connected => f
  | .closed => { f with isClosed := true }

/-- What reading yields. -/
inductive Yield where
  | item (i : Except SourceError EntitiesMessage)
  | nothingYet
  | theEnd

/-- The failure that tells of a loss. -/
def lossError : SourceError :=
  .unavailable "NATS connection lost"

/-- Reads once. A loss is looked at first, and is the last thing that is told. -/
def poll (f : EntityFeed) : Yield × EntityFeed :=
  if f.hasEnded then (.theEnd, f)
  else if f.isLost then (.item (.error lossError), { f with hasEnded := true })
  else
    match f.pending with
    | payload :: pending => (.item (decodeEntities payload), { f with pending })
    | [] => if f.isClosed then (.theEnd, { f with hasEnded := true }) else (.nothingYet, f)

/-- Reads until there is nothing more by now. -/
def drain (f : EntityFeed) : List (Except SourceError EntitiesMessage) × EntityFeed :=
  go (f.pending.length + 2) f
where
  go : Nat → EntityFeed → List (Except SourceError EntitiesMessage) × EntityFeed
    | 0, f => ([], f)
    | n + 1, f =>
      match f.poll with
      | (.item i, f) =>
        let (items, f) := go n f
        (i :: items, f)
      | (_, f) => ([], f)

end EntityFeed

end HexWorld
