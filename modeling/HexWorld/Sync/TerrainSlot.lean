import HexWorld.Sync.Request
import HexWorld.World.Update

/-!
# Terrain requests

Terrain is asked of the source on a connection of its own, which is opened when it is first needed
and kept for later calls in a *slot*. A lock guards the slot: a call takes it to find or open the
connection, lets it go, sends its request, and takes it again only if the source turned out to be
unavailable, to give up the connection, unless that has been replaced meanwhile.

## Contents
- `TerrainCall`, a call and where it stands.
- `TerrainSlot`, the slot, its lock and all calls.
- `TerrainSlot.grant?`, `connected`, `answered`: the steps of calls.
-/

namespace HexWorld

/-- Where a call stands. -/
inductive TerrainStage where
  /-- Waits for the lock, to find or open the connection. -/
  | entering
  /-- Holds the lock and opens a connection. -/
  | connecting
  | asking (connection : Nat)
  /-- Waits for the lock, to give up the connection that failed. -/
  | leaving (connection : Nat) (failure : SourceError)
  | done (result : Except SourceError (List TerrainTile))

/-- A call for the terrain of a room. -/
structure TerrainCall where
  room : RoomId
  stage : TerrainStage

/-- The slot. Connections are numbered in the order in which they were opened. -/
structure TerrainSlot where
  calls : List TerrainCall
  cached : Option Nat
  opened : Nat
  holder : Option Nat
  /-- The calls that wait for the lock; the first comes first. -/
  queue : List Nat

namespace TerrainSlot

def empty : TerrainSlot := ⟨[], none, 0, none, []⟩

def stage? (n : Nat) (s : TerrainSlot) : Option TerrainStage :=
  s.calls[n]?.map (·.stage)

/-- The result of a call that is done. -/
def result? (n : Nat) (s : TerrainSlot) : Option (Except SourceError (List TerrainTile)) :=
  match s.stage? n with
  | some (.done result) => some result
  | _ => none

/-- Moves a call to a stage. -/
def setStage (n : Nat) (stage : TerrainStage) (s : TerrainSlot) : TerrainSlot :=
  { s with calls := s.calls.modify n fun c => { c with stage } }

/-- A new call, under the next number; it waits for the lock. -/
def call (room : RoomId) (s : TerrainSlot) : Nat × TerrainSlot :=
  let n := s.calls.length
  (n, { s with calls := s.calls ++ [⟨room, .entering⟩], queue := s.queue ++ [n] })

/-- The first call that waits takes the lock, if it is free. It keeps it only while it opens a
connection. -/
def grant? (s : TerrainSlot) : Option (Nat × TerrainSlot) :=
  match s.holder, s.queue with
  | none, n :: queue =>
    let s := { s with queue }
    some <| (n, ·) <|
      match s.stage? n, s.cached with
      | some .entering, some connection => s.setStage n (.asking connection)
      | some .entering, none => { s.setStage n .connecting with holder := some n }
      | some (.leaving connection failure), cached =>
        { s.setStage n (.done (.error failure)) with
          cached := if cached = some connection then none else cached }
      | _, _ => s
  | _, _ => none

/-- A connection was opened, or not; either way the lock is let go. -/
def connected (n : Nat) (result : Bounded Unit) (s : TerrainSlot) : TerrainSlot :=
  match s.stage? n with
  | some .connecting =>
    let s := { s with holder := none }
    match result.ofConnect with
    | .ok () =>
      { s.setStage n (.asking s.opened) with cached := some s.opened, opened := s.opened + 1 }
    | .error e => s.setStage n (.done (.error e))
  | _ => s

/-- The result of the request for a room. -/
def resultFor (timeout : Duration) (room : RoomId) (result : Bounded TerrainReply) :
    Except SourceError (List TerrainTile) :=
  result.ofRequest "GetRoomTerrain" timeout >>= TerrainReply.tilesOf room

/-- A request came to its end. If the source is unavailable the call has to take the lock again. -/
def answered (timeout : Duration) (n : Nat) (result : Bounded TerrainReply) (s : TerrainSlot) :
    TerrainSlot :=
  match s.calls[n]? with
  | some ⟨room, .asking connection⟩ =>
    match resultFor timeout room result with
    | .error (.unavailable detail) =>
      { s.setStage n (.leaving connection (.unavailable detail)) with queue := s.queue ++ [n] }
    | result => s.setStage n (.done result)
  | _ => s

end TerrainSlot

end HexWorld
