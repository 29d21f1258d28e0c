import HexWorld.Saturating

/-!
# Subscribers

The list of those who want every new snapshot. Registrations and removals replace the list, so a
notification works on the list that was current when it began: what subscribers register or remove
meanwhile counts from the next one.

## Contents
- `Registry`, with `register`, `deregister` and `size`.
- `Outcome`, `Report`: how calls end.
- `Registry.notify`: one notification.
- `ids_register`, `ids_deregister`: the numbers in use after each operation.
-/

namespace HexWorld

/-- A subscriber under its number. -/
structure Entry (β : Type) where
  id : UInt64
  subscriber : β

/-- The registered subscribers, in the order of their registration, and the next number. -/
structure Registry (β : Type) where
  entries : List (Entry β)
  nextId : UInt64

/-- How the call of a subscriber ends. -/
inductive Outcome where
  | handled
  | failed
  | panicked
  deriving DecidableEq, Repr

/-- How many calls of a notification ended well, and how many did not. -/
structure Report where
  delivered : UInt64
  failed : UInt64
  deriving DecidableEq, Repr

namespace Report

def none : Report := ⟨0, 0⟩

/-- Counts one call. -/
def count (r : Report) : Outcome → Report
  | .handled => { r with delivered := Saturating.next64 r.delivered }
  | .failed | .panicked => { r with failed := Saturating.next64 r.failed }

end Report

namespace Registry

variable {β σ : Type}

/-- Nobody is registered. Numbers start at one. -/
def empty : Registry β := ⟨[], 1⟩

instance : Inhabited (Registry β) := ⟨empty⟩

/-- The numbers in use. -/
def ids (r : Registry β) : List UInt64 :=
  r.entries.map (·.id)

def size (r : Registry β) : Nat :=
  r.entries.length

/-- The text of a subscriber's number. -/
def idText (id : UInt64) : String :=
  s!"sub-{id.toNat}"

/-- Adds a subscriber at the end under the next number. -/
def register (b : β) (r : Registry β) : UInt64 × Registry β :=
  (r.nextId, ⟨r.entries ++ [⟨r.nextId, b⟩], r.nextId + 1⟩)

/-- Removes a number, and tells whether it was in use. -/
def deregister (id : UInt64) (r : Registry β) : Bool × Registry β :=
  (r.ids.contains id, { r with entries := r.entries.filter (·.id != id) })

/-- The calls of a notification, in order, on a state that may hold the registry itself. -/
def callAll (call : Entry β → σ → σ × Outcome) : List (Entry β) → σ → Report → σ × Report
  | [], s, report => (s, report)
  | e :: rest, s, report =>
    let (s, outcome) := call e s
    callAll call rest s (report.count outcome)

/-- One notification: everyone registered when it begins is called once. -/
def notify (call : Entry β → σ → σ × Outcome) (r : Registry β) (s : σ) : σ × Report :=
  callAll call r.entries s .none

/-! ## Laws -/

theorem ids_register (b : β) (r : Registry β) : (r.register b).2.ids = r.ids ++ [r.nextId] := by
  simp [register, ids]

theorem ids_deregister (id : UInt64) (r : Registry β) :
    (r.deregister id).2.ids = r.ids.filter (· != id) := by
  simp [deregister, ids, List.filter_map, Function.comp_def]

end Registry

end HexWorld
