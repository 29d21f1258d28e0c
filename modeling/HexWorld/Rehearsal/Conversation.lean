import HexWorld.Rehearsal.Source
import HexWorld.World.Update

/-!
# Conversations with a source

One connection, asked one thing after the other, with a deadline for each request.

## Contents
- `Conversation`, with `connect`, `bootstrap`, `terrain`, `subscribe` and `arrivals`.
-/

namespace HexWorld.Rehearsal

/-- A connection in use. -/
structure Conversation (σ : Type) where
  source : σ
  connection : Nat
  /-- The milliseconds that have passed. -/
  now : Nat
  timeout : Duration

namespace Conversation

variable {σ : Type} [Source σ]

/-- Opens a connection, without a deadline. -/
def connect (role : Role) (timeout : Duration) (source : σ) : Opening × Conversation σ :=
  let (opening, connection, source) := Source.connect role source
  (opening.answer, ⟨source, connection, opening.delay.getD 0, timeout⟩)

/-- Asks something and waits for the answer or the deadline. -/
def ask {α : Type} (operation : String) (request : σ → Timed (Except SourceError α) × σ)
    (c : Conversation σ) : Except SourceError α × Conversation σ :=
  let (timed, source) := request c.source
  let (delay, result) := timed.bounded c.timeout
  (result.ofRequest operation c.timeout, { c with source, now := c.now + delay })

/-- Asks for the description of the world. -/
def bootstrap (c : Conversation σ) : Except SourceError Bootstrap × Conversation σ :=
  match c.ask "ListRooms" (Source.listRooms c.connection) with
  | (.error e, c) => (.error e, c)
  | (.ok rooms, c) =>
    match c.ask "GetRoomLayout" (Source.layout c.connection) with
    | (.error e, c) => (.error e, c)
    | (.ok layout, c) => (Bootstrap.ofReplies rooms layout, c)

/-- Asks for the terrain of a room. -/
def terrain (room : RoomId) (c : Conversation σ) :
    Except SourceError (List TerrainTile) × Conversation σ :=
  let (reply, c) := c.ask "GetRoomTerrain" (Source.terrain c.connection room)
  (reply >>= TerrainReply.tilesOf room, c)

def subscribe (c : Conversation σ) : Except SourceError Unit × Conversation σ :=
  c.ask "SubscribeEntities" (Source.subscribe c.connection)

/-- What the subscription yields by now, checked, and whether it has ended. -/
def arrivals (c : Conversation σ) : List (Except SourceError Update) × Bool × Conversation σ :=
  let (arrivals, source) := Source.arrivals c.connection c.source
  (arrivals.items.map (· >>= Update.ofMessage), arrivals.ended, { c with source })

/-- Gives the subscription up. -/
def close (c : Conversation σ) : Conversation σ :=
  { c with source := Source.close c.connection c.source }

end Conversation

end HexWorld.Rehearsal
