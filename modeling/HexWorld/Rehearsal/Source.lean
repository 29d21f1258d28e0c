import HexWorld.Message.Basic
import HexWorld.Sync.Request

/-!
# Sources that can be rehearsed with

A rehearsed source is a state that tells, for everything asked of it, the answer and how long it
takes, in milliseconds of a clock that only the rehearsal moves.

## Contents
- `Timed`, an answer and its delay; `Timed.within`, the same under a deadline.
- `Source`, what a rehearsal needs of a source.
-/

namespace HexWorld.Rehearsal

/-- An answer and the milliseconds until it comes; without a delay it never comes. -/
structure Timed (α : Type) where
  delay : Option Nat
  answer : α

namespace Timed

variable {α β : Type}

def atOnce (a : α) : Timed α := ⟨some 0, a⟩

def map (f : α → β) (t : Timed α) : Timed β := ⟨t.delay, f t.answer⟩

/-- The delay and the answer under a deadline. What comes at the deadline itself still counts; what
comes later, or never, leaves `late`. -/
def within (timeout : Duration) (late : α) (t : Timed α) : Nat × α :=
  match t.delay with
  | some delay => if delay ≤ timeout.toMillis then (delay, t.answer) else (timeout.toMillis, late)
  | none => (timeout.toMillis, late)

/-- A request under a deadline. -/
def bounded (timeout : Duration) (t : Timed (Except SourceError α)) : Nat × Bounded α :=
  (t.map Bounded.answered).within timeout .elapsed

end Timed

/-- How opening a connection ends. -/
inductive Opening where
  | opened (result : Except SourceError Unit)
  | panicked (detail : String)

/-- What a subscription yields, until the clock moves or something is done to the source. -/
structure Arrivals where
  items : List (Except SourceError EntitiesMessage)
  /-- Nothing follows any more. -/
  ended : Bool

/-- A source in a rehearsal. Connections have numbers; a number is given as soon as the connection
is begun. -/
class Source (σ : Type) where
  connect : Role → σ → Timed Opening × Nat × σ
  listRooms : Nat → σ → Timed (Except SourceError RoomList) × σ
  layout : Nat → σ → Timed (Except SourceError LayoutReply) × σ
  terrain : Nat → RoomId → σ → Timed (Except SourceError TerrainReply) × σ
  subscribe : Nat → σ → Timed (Except SourceError Unit) × σ
  /-- Takes what the subscription of a connection yields by now. -/
  arrivals : Nat → σ → Arrivals × σ
  /-- Gives a connection up. -/
  close : Nat → σ → σ

end HexWorld.Rehearsal
