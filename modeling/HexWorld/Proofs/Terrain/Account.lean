import HexWorld.Proofs.History
import HexWorld.Sync.TerrainSlot

/-!
# `Proofs.Terrain.Account` — the account of the terrain connection

Calls for terrain share one connection at a time. What they do with it is noted, note by note: each
finds it or opens it, has its request ended, and may give it up. If every note is sound where it
stands, the connections that were opened and those that were given up balance.

## Contents
- `TerrainNote`, `TerrainNote.alter`: what a note does to the slot.
- `cachedAfter`, `openings`, `drops`: what can be read off the notes.
- `TerrainNote.IsSound`, `Account`: notes that are sound where they stand.
- `Account.balance`, `Account.retired_of_drop`.
-/

namespace HexWorld

/-- What is noted about calls for terrain. -/
inductive TerrainNote where
  /-- The call has taken the lock and found a connection. -/
  | found (call connection : Nat)
  /-- The call has taken the lock and opened a connection. -/
  | opened (call connection : Nat)
  /-- The call has taken the lock, and could open no connection. -/
  | unopened (call : Nat) (failure : SourceError)
  /-- The request of the call on a connection has ended. -/
  | ended (call connection : Nat) (result : Except SourceError (List TerrainTile))
  /-- The call has taken the lock again and given up the connection. -/
  | dropped (call connection : Nat)
  /-- The call has taken the lock again and left the slot alone. -/
  | kept (call connection : Nat)

namespace TerrainNote

def call : TerrainNote → Nat
  | found n _ | opened n _ | unopened n _ | ended n _ _ | dropped n _ | kept n _ => n

/-- What the slot holds after one more note. -/
def alter (cached : Option Nat) : TerrainNote → Option Nat
  | opened _ connection => some connection
  | dropped .. => none
  | found .. | unopened .. | ended .. | kept .. => cached

def opened? : TerrainNote → Option Nat
  | opened _ connection => some connection
  | _ => none

def dropped? : TerrainNote → Option Nat
  | dropped _ connection => some connection
  | _ => none

/-- The request of the call on the connection has ended because the source was unavailable. -/
def IsOutage (call connection : Nat) (n : TerrainNote) : Prop :=
  ∃ detail, n = ended call connection (.error (.unavailable detail))

end TerrainNote

/-- What the slot holds after these notes. -/
def cachedAfter (notes : List TerrainNote) : Option Nat :=
  notes.foldl TerrainNote.alter none

/-- The connections that were opened, in order. -/
def openings (notes : List TerrainNote) : List Nat :=
  notes.filterMap TerrainNote.opened?

/-- The connections that were given up, in order. -/
def drops (notes : List TerrainNote) : List Nat :=
  notes.filterMap TerrainNote.dropped?

/-- The note is sound after those before it: a connection is found in the slot, or opened into an
empty one under the next number; it is given up only while the slot holds it, after the call's own
request on it has found the source unavailable; and otherwise the slot does not hold it any more. -/
def TerrainNote.IsSound (past : List TerrainNote) : TerrainNote → Prop
  | .found _ connection => cachedAfter past = some connection
  | .opened _ connection => cachedAfter past = none ∧ connection = (openings past).length
  | .unopened .. => cachedAfter past = none
  | .ended call connection _ => .found call connection ∈ past ∨ .opened call connection ∈ past
  | .dropped call connection =>
    cachedAfter past = some connection ∧ ∃ n ∈ past, n.IsOutage call connection
  | .kept call connection =>
    cachedAfter past ≠ some connection ∧ ∃ n ∈ past, n.IsOutage call connection

/-- Notes each of which is sound where it stands. -/
inductive Account : List TerrainNote → Prop where
  | start : Account []
  | note {notes n} (h : Account notes) (sound : n.IsSound notes) : Account (notes ++ [n])

section

variable {notes : List TerrainNote}

theorem cachedAfter_concat (notes : List TerrainNote) (n : TerrainNote) :
    cachedAfter (notes ++ [n]) = n.alter (cachedAfter notes) := by
  unfold cachedAfter
  rw [List.foldl_append]
  rfl

theorem openings_concat (notes : List TerrainNote) (n : TerrainNote) :
    openings (notes ++ [n]) = openings notes ++ n.opened?.toList := by
  unfold openings
  rw [List.filterMap_append]
  cases n <;> rfl

theorem drops_concat (notes : List TerrainNote) (n : TerrainNote) :
    drops (notes ++ [n]) = drops notes ++ n.dropped?.toList := by
  unfold drops
  rw [List.filterMap_append]
  cases n <;> rfl

namespace Account

theorem of_split (h : Account notes) {past rest : List TerrainNote} {n : TerrainNote}
    (split : notes = past ++ n :: rest) : Account past ∧ n.IsSound past := by
  induction h generalizing rest with
  | start => simp at split
  | note h sound ih =>
      rcases split_concat split with ⟨rfl, rfl, -⟩ | ⟨after, earlier, -⟩
      · exact ⟨h, sound⟩
      · exact ih earlier

end Account

/-- Every connection but the one in the slot has been given up, one after the other. -/
structure Balance (notes : List TerrainNote) : Prop where
  inOrder : drops notes = List.range (drops notes).length
  newest : ∀ connection, cachedAfter notes = some connection → connection = (drops notes).length
  count : (openings notes).length = (drops notes).length + (cachedAfter notes).isSome.toNat

/-- The balance of notes that read the same. -/
theorem Balance.congr {other : List TerrainNote} (h : Balance notes)
    (cached : cachedAfter other = cachedAfter notes) (opened : openings other = openings notes)
    (dropped : drops other = drops notes) : Balance other := by
  refine ⟨?_, ?_, ?_⟩
  · rw [dropped]
    exact h.inOrder
  · rw [cached, dropped]
    exact h.newest
  · rw [cached, opened, dropped]
    exact h.count

/-- **The account balances.** -/
theorem Account.balance (h : Account notes) : Balance notes := by
  induction h with
  | start =>
      refine ⟨rfl, ?_, rfl⟩
      intro connection cached
      cases cached
  | @note notes n _ sound ih =>
      cases n with
      | found | unopened | ended | kept =>
          refine ih.congr (cachedAfter_concat _ _) ?_ ?_
          · exact (openings_concat _ _).trans (List.append_nil _)
          · exact (drops_concat _ _).trans (List.append_nil _)
      | opened call connection =>
          -- The slot was empty, so every connection before this one has been given up.
          obtain ⟨empty, number⟩ := sound
          have count := ih.count
          rw [empty] at count
          have all : (openings notes).length = (drops notes).length := count
          have same : drops (notes ++ [.opened call connection]) = drops notes :=
            (drops_concat _ _).trans (List.append_nil _)
          have cached : cachedAfter (notes ++ [.opened call connection]) = some connection :=
            cachedAfter_concat _ _
          refine ⟨?_, ?_, ?_⟩
          · rw [same]
            exact ih.inOrder
          · rw [same, cached, number, all]
            exact fun c found => (Option.some.inj found).symm
          · rw [same, cached, openings_concat, List.length_append, all]
            rfl
      | dropped call connection =>
          -- The slot held the newest connection, so it is the next one in the order of the drops.
          have count := ih.count
          rw [sound.1] at count
          have all : (openings notes).length = (drops notes).length + 1 := count
          have more : drops (notes ++ [.dropped call connection]) = drops notes ++ [connection] :=
            drops_concat _ _
          have cached : cachedAfter (notes ++ [.dropped call connection]) = none :=
            cachedAfter_concat _ _
          refine ⟨?_, ?_, ?_⟩
          · rw [more, List.length_append, ih.newest connection sound.1]
            show _ = List.range ((drops notes).length + 1)
            rw [List.range_succ, ← ih.inOrder]
          · rw [cached]
            exact fun c found => nomatch found
          · rw [more, cached, openings_concat, List.length_append, List.length_append, all]
            rfl

/-- A connection that has been given up is neither found nor opened afterwards. -/
theorem Account.retired_of_drop (h : Account notes) {past rest : List TerrainNote}
    {call connection : Nat} (split : notes = past ++ .dropped call connection :: rest)
    (other : Nat) : .found other connection ∉ rest ∧ .opened other connection ∉ rest := by
  -- Whatever comes up later comes up after more drops than there were before this one.
  have retired {n : TerrainNote} (mem : n ∈ rest)
      (number : ∀ past, n.IsSound past → Balance past → connection = (drops past).length) :
      False := by
    obtain ⟨between, later, rfl⟩ := List.append_of_mem mem
    have split' : notes = (past ++ .dropped call connection :: between) ++ n :: later := by
      simp [split]
    obtain ⟨earlier, dropped⟩ := h.of_split split
    have before : connection = (drops past).length := earlier.balance.newest connection dropped.1
    obtain ⟨account, sound⟩ := h.of_split split'
    have now := number _ sound account.balance
    have more : (drops (past ++ .dropped call connection :: between)).length =
        (drops past).length + 1 + (drops between).length := by
      unfold drops
      rw [List.filterMap_append, List.length_append,
        List.filterMap_cons_some (f := TerrainNote.dropped?) rfl, List.length_cons]
      omega
    omega
  refine ⟨fun mem => retired mem ?_, fun mem => retired mem ?_⟩
  · intro past sound balance
    exact balance.newest connection sound
  · rintro past ⟨empty, number⟩ balance
    have count := balance.count
    rw [empty] at count
    exact number.trans count

end
end HexWorld
