import HexWorld.Room

/-!
# Maps over rooms

Finite maps from rooms, kept as lists in strictly increasing order of the rooms, so that two maps
with the same entries are equal.

## Contents
- `RoomMap`, with `empty`, `find?`, `keys`, `insert` and `ofList`.
- `find?_empty`, `find?_insert`, `mem_keys_iff`: what each operation does to look-ups.
- `RoomMap.ext`: maps with the same look-ups are equal.
-/

namespace HexWorld

/-- A finite map from rooms. -/
structure RoomMap (α : Type) where
  entries : List (RoomId × α)
  increasing : entries.Pairwise fun a b => a.1 < b.1

namespace RoomMap

variable {α : Type}

instance [DecidableEq α] : DecidableEq (RoomMap α) := fun a b =>
  decidable_of_iff (a.entries = b.entries) <| by
    cases a
    cases b
    simp

/-- No room. -/
def empty : RoomMap α := ⟨[], .nil⟩

instance : EmptyCollection (RoomMap α) := ⟨empty⟩
instance : Inhabited (RoomMap α) := ⟨empty⟩

/-- The value of a room. -/
def find? (m : RoomMap α) (room : RoomId) : Option α :=
  (m.entries.find? (·.1 = room)).map (·.2)

def contains (m : RoomMap α) (room : RoomId) : Bool :=
  m.entries.any (·.1 = room)

/-- The rooms of the map, in order. -/
def keys (m : RoomMap α) : List RoomId :=
  m.entries.map (·.1)

def size (m : RoomMap α) : Nat :=
  m.entries.length

/-! ## Insertion -/

/-- Puts an entry where its room belongs, in the place of an entry for the same room. -/
def insertEntry (room : RoomId) (a : α) : List (RoomId × α) → List (RoomId × α)
  | [] => [(room, a)]
  | e :: rest =>
    if room < e.1 then (room, a) :: e :: rest
    else if room = e.1 then (room, a) :: rest
    else e :: insertEntry room a rest

theorem mem_insertEntry {room : RoomId} {a : α} {es : List (RoomId × α)} {e : RoomId × α}
    (h : e ∈ insertEntry room a es) : e = (room, a) ∨ e ∈ es := by
  induction es with
  | nil => simpa [insertEntry] using h
  | cons x rest ih =>
    rw [insertEntry] at h
    split at h
    · simpa using h
    · split at h
      · rcases List.mem_cons.mp h with h | h
        · exact Or.inl h
        · exact Or.inr (List.mem_cons_of_mem _ h)
      · rcases List.mem_cons.mp h with h | h
        · exact Or.inr (h ▸ List.mem_cons_self)
        · exact (ih h).imp_right (List.mem_cons_of_mem _)

theorem pairwise_insertEntry {room : RoomId} {a : α} {es : List (RoomId × α)}
    (h : es.Pairwise fun a b => a.1 < b.1) :
    (insertEntry room a es).Pairwise fun a b => a.1 < b.1 := by
  induction es with
  | nil => simp [insertEntry]
  | cons x rest ih =>
    obtain ⟨hx, hrest⟩ := List.pairwise_cons.mp h
    rw [insertEntry]
    split
    next lt =>
      refine List.pairwise_cons.mpr ⟨fun e he => ?_, h⟩
      rcases List.mem_cons.mp he with rfl | he
      · exact lt
      · exact RoomId.lt_trans lt (hx e he)
    next notLt =>
      split
      next eq =>
        refine List.pairwise_cons.mpr ⟨fun e he => ?_, hrest⟩
        exact eq ▸ hx e he
      next ne =>
        refine List.pairwise_cons.mpr ⟨fun e he => ?_, ih hrest⟩
        rcases mem_insertEntry he with rfl | he
        · rcases RoomId.lt_trichotomy room x.1 with c | c | c
          · exact absurd c notLt
          · exact absurd c ne
          · exact c
        · exact hx e he

/-- The map with `a` as the value of `room`. -/
def insert (m : RoomMap α) (room : RoomId) (a : α) : RoomMap α :=
  ⟨insertEntry room a m.entries, pairwise_insertEntry m.increasing⟩

/-- The map of these entries; of two for one room the later counts. -/
def ofList (entries : List (RoomId × α)) : RoomMap α :=
  entries.foldl (fun m e => m.insert e.1 e.2) empty

/-! ## Look-ups -/

@[simp] theorem find?_empty (room : RoomId) : (empty : RoomMap α).find? room = none := rfl

theorem find?_insertEntry (room : RoomId) (a : α) (es : List (RoomId × α)) (other : RoomId) :
    ((insertEntry room a es).find? (·.1 = other)).map (·.2) =
      if room = other then some a else (es.find? (·.1 = other)).map (·.2) := by
  induction es with
  | nil => by_cases h : room = other <;> simp [insertEntry, h]
  | cons x rest ih =>
    rw [insertEntry]
    by_cases h : room = other
    · subst h
      split
      · simp
      · split
        · simp
        next ne => simp [Ne.symm ne, ih]
    · split
      · simp [List.find?_cons, h]
      · split
        next eq => simp [h, eq ▸ h]
        next => by_cases hx : x.1 = other <;> simp [h, hx, ih]

/-- Insertion changes the look-up of its own room only. -/
theorem find?_insert (m : RoomMap α) (room : RoomId) (a : α) (other : RoomId) :
    (m.insert room a).find? other = if room = other then some a else m.find? other :=
  find?_insertEntry room a m.entries other

theorem mem_keys_iff (m : RoomMap α) (room : RoomId) : room ∈ m.keys ↔ m.find? room ≠ none := by
  simp [keys, find?]

theorem find?_eq_some_iff (m : RoomMap α) (room : RoomId) (a : α) :
    m.find? room = some a ↔ (room, a) ∈ m.entries := by
  obtain ⟨es, inc⟩ := m
  simp only [find?]
  induction es with
  | nil => simp
  | cons x rest ih =>
    obtain ⟨hx, hrest⟩ := List.pairwise_cons.mp inc
    by_cases h : x.1 = room
    · subst h
      have notLater : ∀ b, (x.1, b) ∉ rest := fun b hb => RoomId.lt_irrefl _ (hx (x.1, b) hb)
      obtain ⟨xr, xa⟩ := x
      simp only [List.find?_cons, decide_true, Option.map_some, Option.some.injEq, List.mem_cons,
        Prod.mk.injEq, true_and]
      constructor
      · exact fun h => Or.inl h.symm
      · exact fun h => h.elim (fun h => h.symm) fun h => absurd h (notLater a)
    · have ne : (room, a) ≠ x := fun e => h (e ▸ rfl)
      simp only [List.find?_cons, h, decide_false, List.mem_cons, ne, false_or]
      exact ih hrest

/-- A list in strictly increasing order is determined by its members. -/
theorem entries_eq_of_mem_iff {es fs : List (RoomId × α)} (he : es.Pairwise fun a b => a.1 < b.1)
    (hf : fs.Pairwise fun a b => a.1 < b.1) (h : ∀ e, e ∈ es ↔ e ∈ fs) : es = fs := by
  induction es generalizing fs with
  | nil =>
    cases fs with
    | nil => rfl
    | cons f _ => exact absurd ((h f).mpr List.mem_cons_self) List.not_mem_nil
  | cons e es ih =>
    cases fs with
    | nil => exact absurd ((h e).mp List.mem_cons_self) List.not_mem_nil
    | cons f fs =>
      obtain ⟨he', hes⟩ := List.pairwise_cons.mp he
      obtain ⟨hf', hfs⟩ := List.pairwise_cons.mp hf
      have head : e = f := by
        rcases List.mem_cons.mp ((h e).mp List.mem_cons_self) with c | c
        · exact c
        rcases List.mem_cons.mp ((h f).mpr List.mem_cons_self) with d | d
        · exact d.symm
        exact absurd (RoomId.lt_trans (hf' e c) (he' f d)) (RoomId.lt_irrefl _)
      subst head
      congr 1
      refine ih hes hfs fun g => ⟨fun hg => ?_, fun hg => ?_⟩
      · rcases List.mem_cons.mp ((h g).mp (List.mem_cons_of_mem _ hg)) with c | c
        · exact absurd (c ▸ he' g hg) (RoomId.lt_irrefl _)
        · exact c
      · rcases List.mem_cons.mp ((h g).mpr (List.mem_cons_of_mem _ hg)) with c | c
        · exact absurd (c ▸ hf' g hg) (RoomId.lt_irrefl _)
        · exact c

/-- Maps with the same look-ups are equal. -/
@[ext] theorem ext {m n : RoomMap α} (h : ∀ room, m.find? room = n.find? room) : m = n := by
  have mem : ∀ e, e ∈ m.entries ↔ e ∈ n.entries := by
    rintro ⟨room, a⟩
    rw [← find?_eq_some_iff, ← find?_eq_some_iff, h]
  obtain ⟨es, he⟩ := m
  obtain ⟨fs, hf⟩ := n
  obtain rfl := entries_eq_of_mem_iff he hf mem
  rfl

end RoomMap

end HexWorld
